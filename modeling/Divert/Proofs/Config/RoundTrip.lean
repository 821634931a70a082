/-
# Divert.Proofs.Config.RoundTrip — a configuration that is written is read back.

Each member of a structure that is written is read back by its own reader, and a structure that is
written has each of its members once, in their order.  So reading collects exactly the members that were
written, whatever characters the names in a configuration have, and a text that is accepted can be
replaced by the text of what was read from it.
-/
import Divert.Proofs.Config.Valid
import Divert.Proofs.Json.Record
import Divert.Proofs.Json.Written
import Divert.Proofs.Net.Address

namespace Divert

open Json

/-! ## Members -/

theorem Protocol.read_toValue (protocol : Protocol) :
    Protocol.read protocol.toValue.node = .ok protocol := by
  cases protocol <;> rfl

theorem Address.read_toText (ip : Address) : Address.read (.string (.ok ip.toText)) = .ok ip := by
  simp only [Address.read, bind, Except.bind, ofText?_toText]
  rfl

theorem Json.Node.port_ofNat (port : UInt16) :
    Node.port (.number (.ofNat port.toNat)) = .ok port := by
  have small := port.toNat_lt
  have value : (Numeral.ofNat port.toNat).value = .ok (.integer port.toNat) :=
    value_ofNat (by rw [Numeral.maxSignificand]; omega)
  have inRange : 0 ≤ (port.toNat : Int) ∧ (port.toNat : Int) < 0x10000 := by omega
  simp only [Node.port, value, bind, Except.bind, if_pos inRange, Int.toNat_natCast,
    UInt16.ofNat_toNat]
  rfl

/-! ## Structures -/

theorem Redirect.read_toValue (r : Redirect) : Redirect.shape.read r.toValue.node = .ok r := by
  obtain ⟨⟨protocol, address⟩, port⟩ := r
  have first : shape.put ⟨none, none, none⟩ "protocol" protocol.toValue.node =
      .ok ⟨some protocol, none, none⟩ := by
    simp [shape, protocol.read_toValue]
  have second : shape.put ⟨some protocol, none, none⟩ "address" (.string (.ok address.toText)) =
      .ok ⟨some protocol, some address, none⟩ := by
    simp [shape, address.read_toText]
  have third : shape.put ⟨some protocol, some address, none⟩ "port" (.number (.ofNat port.toNat)) =
      .ok ⟨some protocol, some address, some port⟩ := by
    simp [shape, Node.port_ofNat]
  have collected : shape.collect ⟨none, none, none⟩ [(.ok "protocol", protocol.toValue.node),
      (.ok "address", .string (.ok address.toText)), (.ok "port", .number (.ofNat port.toNat))] =
        .ok ⟨some protocol, some address, some port⟩ := by
    rw [Shape.collect_cons (by decide) rfl first, Shape.collect_cons (by decide) rfl second,
      Shape.collect_cons (by decide) rfl third]
    rfl
  exact Shape.read_object collected rfl

theorem LogSettings.read_toValue (log : LogSettings) :
    LogSettings.shape.read log.toValue.node = .ok log := by
  rfl

/-- The redirects of a list are read back one by one. -/
theorem Redirect.read_list (redirects : List Redirect) :
    (Value.node (.list (redirects.map toValue))).listOf shape.read = .ok redirects := by
  have items : (Value.nodes (redirects.map toValue)).mapM shape.read = .ok redirects := by
    induction redirects with
    | nil => rfl
    | cons r rest ih =>
      rw [List.map_cons, Value.nodes, List.mapM_cons, r.read_toValue, ih]
      rfl
  rw [Value.node, Node.listOf, items]
  rfl

namespace Config

theorem read_toValue (c : Config) : shape.read c.toValue.node = .ok c := by
  obtain ⟨chain, dryRun, redirects, log⟩ := c
  have third : shape.put ⟨some chain, some dryRun, none, none⟩ "redirects"
      (Value.node (.list (redirects.map Redirect.toValue))) =
        .ok ⟨some chain, some dryRun, some redirects, none⟩ := by
    simp [shape, Redirect.read_list]
  have fourth : shape.put ⟨some chain, some dryRun, some redirects, none⟩ "log" log.toValue.node =
      .ok ⟨some chain, some dryRun, some redirects, some log⟩ := by
    simp [shape, log.read_toValue]
  have collected : shape.collect ⟨none, none, none, none⟩ [(.ok "chain", .string (.ok chain)),
      (.ok "dry_run", .boolean dryRun),
      (.ok "redirects", Value.node (.list (redirects.map Redirect.toValue))),
      (.ok "log", log.toValue.node)] = .ok ⟨some chain, some dryRun, some redirects, some log⟩ := by
    rw [Shape.collect_cons (by decide) rfl rfl, Shape.collect_cons (by decide) rfl rfl,
      Shape.collect_cons (by decide) rfl third, Shape.collect_cons (by decide) rfl fourth]
    rfl
  exact Shape.read_object collected rfl

/-! ## Texts -/

theorem ofText_toText (c : Config) : ofText c.toText = .ok c := by
  rw [ofText, toText, Value.ofText_pretty, Document.read, c.read_toValue]
  rfl

theorem ofText_compact (c : Config) : ofText c.toValue.compact = .ok c := by
  rw [ofText, Value.ofText_compact, Document.read, c.read_toValue]
  rfl

theorem loadText_toText {c : Config} (valid : c.validate = .ok ()) : loadText c.toText = .ok c :=
  loadText_eq_ok_iff.2 ⟨c.ofText_toText, valid⟩

/-- **Round trip.** Every configuration, whether valid or not, is read back from its text in indented
lines and from its text in one line.  A valid one is accepted in that text, and what was read from any
text that is accepted has a text that is accepted as the same configuration. -/
theorem round_trip (c : Config) :
    ofText c.toText = .ok c ∧ ofText c.toValue.compact = .ok c ∧
      (c.validate = .ok () → loadText c.toText = .ok c) ∧
      ∀ text, loadText text = .ok c → loadText c.toText = .ok c :=
  ⟨c.ofText_toText, c.ofText_compact, loadText_toText,
    fun _ accepted => loadText_toText (loadText_eq_ok_iff.1 accepted).2⟩

/-- A chain with characters that have to be escaped, in a text with the members in another order. -/
theorem round_trip_escaped :
    let c : Config := ⟨"a\"b\\é", true, [⟨⟨.udp, ⟨10, 0, 255, 1⟩⟩, 65535⟩], ⟨"WARN", "text", true⟩⟩
    let text := "\x7b\"dry_run\":true,\"redirects\":[[\"udp\",\"10.0.255.1\",65535]]," ++
      "\"log\":\x7b\"level\":\"WARN\"\x7d,\"chain\":\"a\\u0022b\\\\é\"\x7d"
    loadText text = .ok c ∧ loadText c.toText = .ok c := by
  intro c text
  have accepted : loadText text = .ok c := by decide +kernel
  exact ⟨accepted, (round_trip c).2.2.2 text accepted⟩

end Config

end Divert
