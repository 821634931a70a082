/-
# Divert.Proofs.Net.Destination — the three forms of a destination carry the same.

The kernel hands a destination out as a socket address, it is passed on as seven bytes, and it is shown
as text.  A socket address is accepted by its family alone; what is kept of it are the six bytes of port
and address.  The seven bytes and the text each determine these six, so two accepted socket addresses
agree in one form exactly if they agree in all, and the eight bytes behind are never looked at.
-/
import Divert.Net.Destination
import Divert.Proofs.Net.Address
import Mathlib.Tactic.IntervalCases
import Mathlib.Tactic.Tauto

namespace Divert

/-! ## Bytes of a socket address -/

namespace SocketAddress

/-- The byte at a place. -/
def byte (s : SocketAddress) (place : Fin 16) : UInt8 := s.get place

/-- The bytes from one place up to another, which is left out. -/
def bytes (s : SocketAddress) (first last : Nat) : List UInt8 := s.toList.extract first last

theorem toList_eq (s : SocketAddress) :
    s.toList = [s.byte 0, s.byte 1, s.byte 2, s.byte 3, s.byte 4, s.byte 5, s.byte 6, s.byte 7,
      s.byte 8, s.byte 9, s.byte 10, s.byte 11, s.byte 12, s.byte 13, s.byte 14, s.byte 15] := by
  apply List.ext_getElem
  · exact s.length_toList
  · intro i hi _
    rw [Vector.length_toList, socketAddressLength] at hi
    interval_cases i <;> rfl

theorem family_eq (s : SocketAddress) : s.family = word (s.byte 1) (s.byte 0) := rfl

theorem port_eq (s : SocketAddress) : s.port = word (s.byte 2) (s.byte 3) := rfl

theorem address_eq (s : SocketAddress) :
    s.address = ⟨s.byte 4, s.byte 5, s.byte 6, s.byte 7⟩ :=
  rfl

theorem bytes_port (s : SocketAddress) : s.bytes 2 4 = [s.byte 2, s.byte 3] := by
  rw [bytes, toList_eq]
  rfl

theorem bytes_address (s : SocketAddress) :
    s.bytes 4 8 = [s.byte 4, s.byte 5, s.byte 6, s.byte 7] := by
  rw [bytes, toList_eq]
  rfl

theorem bytes_port_append_address (s : SocketAddress) :
    s.bytes 2 8 = s.bytes 2 4 ++ s.bytes 4 8 := by
  rw [bytes_port, bytes_address, bytes, toList_eq]
  rfl

theorem bytes_head (s : SocketAddress) :
    s.bytes 0 8 = [s.byte 0, s.byte 1, s.byte 2, s.byte 3, s.byte 4, s.byte 5, s.byte 6,
      s.byte 7] := by
  rw [bytes, toList_eq]
  rfl

/-! ## Numbers of two bytes -/

theorem toNat_word (high low : UInt8) : (word high low).toNat = high.toNat * 256 + low.toNat := by
  have hhigh := high.toNat_lt
  have hlow := low.toNat_lt
  simp only [word, UInt16.toNat_add, UInt16.toNat_mul, UInt8.toNat_toUInt16, UInt16.reduceToNat]
  omega

theorem high_word (high low : UInt8) : (word high low / 256).toUInt8 = high := by
  have hhigh := high.toNat_lt
  have hlow := low.toNat_lt
  apply UInt8.toNat_inj.1
  simp only [UInt16.toNat_toUInt8, UInt16.toNat_div, toNat_word, UInt16.reduceToNat]
  omega

theorem low_word (high low : UInt8) : (word high low % 256).toUInt8 = low := by
  have hlow := low.toNat_lt
  apply UInt8.toNat_inj.1
  simp only [UInt16.toNat_toUInt8, UInt16.toNat_mod, toNat_word, UInt16.reduceToNat]
  omega

/-- A number is that of its two bytes. -/
theorem word_high_low (n : UInt16) : word (n / 256).toUInt8 (n % 256).toUInt8 = n := by
  have hn := n.toNat_lt
  apply UInt16.toNat_inj.1
  simp only [toNat_word, UInt16.toNat_toUInt8, UInt16.toNat_div, UInt16.toNat_mod,
    UInt16.reduceToNat]
  omega

end SocketAddress

namespace Destination

/-! ## Accepted socket addresses -/

/-- A socket address is accepted by its family, and read at its places of port and address. -/
theorem ofSocketAddress_eq_ok_iff {s : SocketAddress} {d : Destination} :
    ofSocketAddress s = .ok d ↔ s.family = inetFamily ∧ d = ⟨s.address, s.port⟩ := by
  unfold ofSocketAddress
  split
  · next hfamily => simp [hfamily, eq_comm]
  · next hfamily => simp [hfamily]

/-- The socket address of a destination, with padding of zeros. -/
def toSocketAddress (d : Destination) : SocketAddress :=
  #v[2, 0, (d.port / 256).toUInt8, (d.port % 256).toUInt8, d.address.a, d.address.b, d.address.c,
    d.address.d, 0, 0, 0, 0, 0, 0, 0, 0]

theorem ofSocketAddress_toSocketAddress (d : Destination) :
    ofSocketAddress d.toSocketAddress = .ok d := by
  have family : d.toSocketAddress.family = inetFamily := by
    show SocketAddress.word 0 2 = inetFamily
    decide
  have port : d.toSocketAddress.port = d.port := SocketAddress.word_high_low d.port
  refine ofSocketAddress_eq_ok_iff.2 ⟨family, ?_⟩
  rw [port]
  rfl

/-! ## Seven bytes -/

theorem raw_eq (d : Destination) :
    d.raw = [inetTag, d.address.a, d.address.b, d.address.c, d.address.d, (d.port / 256).toUInt8,
      (d.port % 256).toUInt8] :=
  rfl

theorem raw_of_ok {s : SocketAddress} {d : Destination} (h : ofSocketAddress s = .ok d) :
    d.raw = 0x01 :: (s.bytes 4 8 ++ s.bytes 2 4) := by
  obtain ⟨-, rfl⟩ := ofSocketAddress_eq_ok_iff.1 h
  rw [SocketAddress.bytes_address, SocketAddress.bytes_port]
  simp only [raw_eq, SocketAddress.port, SocketAddress.high_word, SocketAddress.low_word]
  rfl

/-- The seven bytes of a destination determine it. -/
theorem raw_inj {d e : Destination} : d.raw = e.raw ↔ d = e := by
  constructor
  · intro h
    simp only [raw_eq, List.cons.injEq, true_and, and_true] at h
    obtain ⟨ha, hb, hc, hd, hhigh, hlow⟩ := h
    have port : d.port = e.port := by
      rw [← SocketAddress.word_high_low d.port, hhigh, hlow, SocketAddress.word_high_low]
    obtain ⟨⟨a, b, c, d⟩, p⟩ := d
    obtain ⟨⟨a', b', c', d'⟩, q⟩ := e
    simp_all
  · rintro rfl
    rfl

/-- Accepted socket addresses have the same seven bytes exactly if they agree in port and address. -/
theorem raw_eq_iff {s t : SocketAddress} {d e : Destination} (hd : ofSocketAddress s = .ok d)
    (he : ofSocketAddress t = .ok e) : d.raw = e.raw ↔ s.bytes 2 8 = t.bytes 2 8 := by
  rw [raw_of_ok hd, raw_of_ok he, s.bytes_port_append_address, t.bytes_port_append_address,
    List.cons_inj_right]
  -- The seven bytes have the address first, the socket address has the port first.
  simp only [SocketAddress.bytes_port, SocketAddress.bytes_address, List.cons_append,
    List.nil_append, List.cons.injEq, and_true]
  tauto

/-! ## Text -/

/-- The port that a text is the decimal form of, without a sign, a blank or a leading zero. -/
def port? (s : List Char) : Option UInt16 :=
  let n := Nat.ofDigitChars 10 s 0
  if s = Nat.toDigits 10 n ∧ n < 65536 then some (UInt16.ofNat n) else none

/-- The destination that a text names: the dotted form of an address, a colon, and a port. -/
def ofText? (s : String) : Option Destination :=
  match s.toList.dropWhile (· ≠ ':') with
  | ':' :: digits => do
    let address ← Address.ofDotted? (s.toList.takeWhile (· ≠ ':'))
    let port ← port? digits
    return ⟨address, port⟩
  | _ => none

example : ofText? "10.0.0.1:443" = some ⟨⟨10, 0, 0, 1⟩, 443⟩ ∧ ofText? "10.0.0.1:0443" = none ∧
    ofText? "10.0.0.1" = none := by
  decide

theorem port?_eq_some_iff {s : List Char} {port : UInt16} :
    port? s = some port ↔ s = Nat.toDigits 10 port.toNat := by
  simp only [port?]
  constructor
  · intro h
    split at h
    · next valid =>
      have number : port.toNat = Nat.ofDigitChars 10 s 0 := by
        rw [← Option.some.inj h, UInt16.toNat_ofNat_of_lt' valid.2]
      rw [number]
      exact valid.1
    · cases h
  · rintro rfl
    rw [Nat.ofDigitChars_ten_toDigits, if_pos ⟨rfl, port.toNat_lt⟩, UInt16.ofNat_toNat]

/-- The dotted form of an address holds no colon. -/
theorem ne_colon_of_mem_dotted {ip : Address} {c : Char} (h : c ∈ ip.dotted) : c ≠ ':' := by
  have digit {n : Nat} (h : c ∈ Nat.toDigits 10 n) : c ≠ ':' := by
    rintro rfl
    exact absurd (isDigit_of_mem_digits h) (by decide)
  simp only [Address.dotted, List.mem_append, List.mem_cons] at h
  rcases h with ((h | rfl | h) | rfl | h) | rfl | h
  all_goals first | exact digit h | decide

theorem toList_hostPort (d : Destination) :
    d.hostPort.toList = d.address.dotted ++ ':' :: Nat.toDigits 10 d.port.toNat := by
  have address : (toString d.address).toList = d.address.dotted := String.toList_ofList
  have port : (toString d.port).toList = Nat.toDigits 10 d.port.toNat := Nat.toList_repr
  unfold hostPort
  simp only [String.toList_append, address, port, List.append_assoc]
  rfl

theorem ofText?_hostPort (d : Destination) : ofText? d.hostPort = some d := by
  have plain : ∀ c ∈ d.address.dotted, decide (c ≠ ':') = true :=
    fun _ hc => decide_eq_true (ne_colon_of_mem_dotted hc)
  have before : d.hostPort.toList.takeWhile (fun c => decide (c ≠ ':')) = d.address.dotted := by
    rw [toList_hostPort, List.takeWhile_append_of_pos plain, List.takeWhile_cons_of_neg (by decide),
      List.append_nil]
  have behind : d.hostPort.toList.dropWhile (fun c => decide (c ≠ ':')) =
      ':' :: Nat.toDigits 10 d.port.toNat := by
    rw [toList_hostPort, List.dropWhile_append_of_pos plain, List.dropWhile_cons_of_neg (by decide)]
  have port : port? (Nat.toDigits 10 d.port.toNat) = some d.port := port?_eq_some_iff.2 rfl
  simp only [ofText?, behind, before, Address.ofDotted?_dotted, port]
  rfl

/-- **Reading.** A text names a destination exactly if it is the text that is shown for it. -/
theorem ofText?_eq_some_iff {s : String} {d : Destination} : ofText? s = some d ↔ s = d.hostPort := by
  constructor
  · intro h
    unfold ofText? at h
    split at h
    · next digits behind =>
      obtain ⟨address, haddress, h⟩ := Option.bind_eq_some_iff.1 h
      obtain ⟨port, hport, h⟩ := Option.bind_eq_some_iff.1 h
      cases h
      have before := Address.ofDotted?_eq_some_iff.1 haddress
      rw [port?_eq_some_iff.1 hport] at behind
      apply String.toList_inj.1
      rw [toList_hostPort, ← before, ← behind, List.takeWhile_append_dropWhile]
    · cases h
  · rintro rfl
    exact ofText?_hostPort d

theorem hostPort_inj {d e : Destination} : d.hostPort = e.hostPort ↔ d = e := by
  constructor
  · intro h
    have same := ofText?_hostPort d
    rw [h, ofText?_hostPort] at same
    exact (Option.some.inj same).symm
  · rintro rfl
    rfl

/-! ## All forms -/

/-- A query gives a destination exactly if it gave a socket address that is accepted. -/
theorem resolve_eq_ok_iff {query : Except SystemError SocketAddress} {d : Destination} :
    resolve query = .ok d ↔ ∃ s, query = .ok s ∧ ofSocketAddress s = .ok d := by
  cases query with
  | ok s => simp [resolve]
  | error cause => simp [resolve]

/-- The kernel gives a socket address exactly if it filled in a whole one. -/
theorem queryDestination_eq_ok_iff
    {getOption : Nat → Except SystemError (SocketAddress × UInt32)} {s : SocketAddress} :
    queryDestination getOption = .ok s ↔ ∃ filled, getOption destinationOption = .ok (s, filled) ∧
      socketAddressLength ≤ filled.toNat := by
  unfold queryDestination
  cases hoption : getOption destinationOption with
  | error cause => simp [bind, Except.bind]
  | ok reply =>
    obtain ⟨address, filled⟩ := reply
    by_cases short : filled.toNat < socketAddressLength
    · simp only [bind, Except.bind, short, if_true]
      constructor
      · intro h
        cases h
      · rintro ⟨_, heq, whole⟩
        cases heq
        exact absurd short (Nat.not_lt.2 whole)
    · simp only [bind, Except.bind, short, if_false]
      constructor
      · intro h
        cases h
        exact ⟨filled, rfl, Nat.not_lt.1 short⟩
      · rintro ⟨_, heq, -⟩
        cases heq
        rfl

/-- By the kernel a destination is found exactly if it filled in a whole socket address that is read as
it. -/
theorem resolveByKernel_eq_ok_iff
    {getOption : Nat → Except SystemError (SocketAddress × UInt32)} {d : Destination} :
    resolveByKernel getOption = .ok d ↔ ∃ s filled, getOption destinationOption = .ok (s, filled) ∧
      socketAddressLength ≤ filled.toNat ∧ ofSocketAddress s = .ok d := by
  rw [resolveByKernel, resolve_eq_ok_iff]
  simp only [queryDestination_eq_ok_iff]
  constructor
  · rintro ⟨s, ⟨filled, hoption, whole⟩, hs⟩
    exact ⟨s, filled, hoption, whole, hs⟩
  · rintro ⟨s, filled, hoption, whole, hs⟩
    exact ⟨s, ⟨filled, hoption, whole⟩, hs⟩

theorem ofSocketAddress_congr {s t : SocketAddress} (h : s.bytes 0 8 = t.bytes 0 8) :
    ofSocketAddress s = ofSocketAddress t := by
  rw [SocketAddress.bytes_head, SocketAddress.bytes_head] at h
  simp only [List.cons.injEq, and_true] at h
  obtain ⟨h0, h1, h2, h3, h4, h5, h6, h7⟩ := h
  have family : s.family = t.family := by rw [s.family_eq, t.family_eq, h0, h1]
  have port : s.port = t.port := by rw [s.port_eq, t.port_eq, h2, h3]
  have address : s.address = t.address := by rw [s.address_eq, t.address_eq, h4, h5, h6, h7]
  rw [ofSocketAddress, ofSocketAddress, family, port, address]

theorem toNat_family (s : SocketAddress) :
    s.family.toNat = (s.byte 0).toNat + 256 * (s.byte 1).toNat := by
  rw [s.family_eq, SocketAddress.toNat_word]
  omega

/-- **Forms of a destination.** A socket address is accepted exactly if its first two bytes, the low one
first, are the family 2; otherwise the error names the family.  An accepted one is passed on as the tag 1,
the bytes of the address and those of the port, behind whatever is in the buffer already, and its text
is the one text that names its address and port.  So two accepted socket addresses agree in the seven bytes
exactly if they agree in the text, and exactly if they agree in the bytes from the third to the eighth;
the bytes after these change nothing.  Every destination comes from some socket address, and it is found
for a connection exactly if the query gave a socket address that is read as it. -/
theorem forms_agree :
    (∀ s : SocketAddress,
      let family := (s.byte 0).toNat + 256 * (s.byte 1).toNat
      ((∃ d, ofSocketAddress s = .ok d) ↔ family = 2) ∧
      (family ≠ 2 → ∃ n : UInt16, n.toNat = family ∧
        ofSocketAddress s = .error (.unsupportedFamily n))) ∧
    (∀ s d, ofSocketAddress s = .ok d →
      d.raw = 0x01 :: (s.bytes 4 8 ++ s.bytes 2 4) ∧
      (∀ buffer, d.encode buffer = buffer ++ d.raw) ∧
      (∀ text, ofText? text = some d ↔ text = d.hostPort) ∧ toString d = d.hostPort) ∧
    (∀ s t d e, ofSocketAddress s = .ok d → ofSocketAddress t = .ok e →
      (d.raw = e.raw ↔ s.bytes 2 8 = t.bytes 2 8) ∧
      (d.hostPort = e.hostPort ↔ s.bytes 2 8 = t.bytes 2 8)) ∧
    (∀ s t : SocketAddress, s.bytes 0 8 = t.bytes 0 8 → ofSocketAddress s = ofSocketAddress t) ∧
    (∀ address port, ∃ s, ofSocketAddress s = .ok ⟨address, port⟩) ∧
    ∀ query d, resolve query = .ok d ↔ ∃ s, query = .ok s ∧ ofSocketAddress s = .ok d := by
  have family_iff (s : SocketAddress) :
      s.family = inetFamily ↔ (s.byte 0).toNat + 256 * (s.byte 1).toNat = 2 := by
    rw [← toNat_family, ← UInt16.toNat_inj]
    rfl
  refine ⟨?_, ?_, ?_, ?_, ?_, ?_⟩
  · intro s family
    constructor
    · simp only [ofSocketAddress_eq_ok_iff, exists_and_left, exists_eq, and_true]
      exact family_iff s
    · intro hfamily
      refine ⟨s.family, toNat_family s, ?_⟩
      rw [ofSocketAddress, if_neg (mt (family_iff s).1 hfamily)]
  · intro s d h
    exact ⟨raw_of_ok h, fun _ => rfl, fun _ => ofText?_eq_some_iff, rfl⟩
  · intro s t d e hd he
    have raw := raw_eq_iff hd he
    exact ⟨raw, hostPort_inj.trans (raw_inj.symm.trans raw)⟩
  · intro s t
    exact ofSocketAddress_congr
  · intro address port
    exact ⟨_, ofSocketAddress_toSocketAddress ⟨address, port⟩⟩
  · intro query d
    exact resolve_eq_ok_iff

/-- Answers to a query: the second differs from the first in its padding only, the third in its port. -/
theorem forms_agree_padded :
    let s : SocketAddress := #v[2, 0, 0x1F, 0x90, 206, 190, 36, 45, 0, 0, 0, 0, 0, 0, 0, 0]
    let t : SocketAddress := #v[2, 0, 0x1F, 0x90, 206, 190, 36, 45, 9, 8, 7, 6, 5, 4, 3, 2]
    let u : SocketAddress := #v[2, 0, 0x1F, 0x91, 206, 190, 36, 45, 0, 0, 0, 0, 0, 0, 0, 0]
    let d : Destination := ⟨⟨206, 190, 36, 45⟩, 8080⟩
    let e : Destination := ⟨⟨206, 190, 36, 45⟩, 8081⟩
    ofSocketAddress s = .ok d ∧ resolve (.ok t) = .ok d ∧
      d.raw = [1, 206, 190, 36, 45, 0x1F, 0x90] ∧
      ofText? "206.190.36.45:8080" = some d ∧ ofSocketAddress u = .ok e ∧
      d.hostPort ≠ e.hostPort := by
  intro s t u d e
  obtain ⟨-, forms, same, padding, -, resolved⟩ := forms_agree
  have hs : ofSocketAddress s = .ok d := by decide
  have hu : ofSocketAddress u = .ok e := by decide
  have ht : ofSocketAddress t = .ok d := by rw [← padding s t (by decide), hs]
  have raw : d.raw = [1, 206, 190, 36, 45, 0x1F, 0x90] := by
    rw [(forms t d ht).1]
    decide
  have text : ofText? "206.190.36.45:8080" = some d := ((forms t d ht).2.2.1 _).2 (by decide)
  have apart : d.hostPort ≠ e.hostPort := mt (same s u d e hs hu).2.1 (by decide)
  exact ⟨hs, (resolved _ d).2 ⟨t, rfl, ht⟩, raw, text, hu, apart⟩

end Destination

end Divert
