/-
# Divert.Proofs.Json.Members — what the members of an object leave open.

A structure may be written as many objects: with its members in any order, with members of other names
between them, without the members that say what is said anyway, and with values that are read alike.
Reading goes through the members in their order and stops at the first fault, so the fault that is found
depends on the order.  Whether there is one does not, and neither does the structure: a member is read
without regard to the others, and what it puts into the draft is not touched again.

`toOption` forgets which fault it was.  Leaving a member out changes not even that.
-/
import Divert.Proofs.Json.Record
import Divert.Proofs.Json.Spelling

namespace Divert.Json

/-- A member of an object, with its name. -/
abbrev Member := Except Fault String × Node

/-! ## Skipping -/

/-- The first fault of a part that is only skipped. -/
def Part.skipFault? : Part → Option Fault
  | value node => node.skipFault?
  | items nodes => Node.skipItems? nodes
  | members entries => Node.skipMembers? entries

/-- What is spelled can be skipped. -/
theorem Spells.skipFault?_eq_none {part : Part} {s : List Char} (h : Spells part s) :
    part.skipFault? = none := by
  induction h with
  | null | boolean | number | string | emptyList | emptyObject => rfl
  | list _ _ inside | object _ _ inside =>
    simp only [Part.skipFault?] at inside ⊢
    rw [Node.skipFault?, inside]
    rfl
  | lastItem _ _ first | lastMember _ _ _ _ first =>
    simp only [Part.skipFault?] at first ⊢
    simp [Node.skipItems?, Node.skipMembers?, first]
  | nextItem _ _ _ first inside | nextMember _ _ _ _ _ first inside =>
    simp only [Part.skipFault?] at first inside ⊢
    simp [Node.skipItems?, Node.skipMembers?, first, inside]

/-! ## Faults forgotten -/

theorem toOption_bind {ε α β : Type} (x : Except ε α) (f : α → Except ε β) :
    (x >>= f).toOption = x.toOption.bind fun value => (f value).toOption := by
  cases x <;> rfl

theorem toOption_bind_congr {ε α β : Type} {x y : Except ε α} {f g : α → Except ε β}
    (h : x.toOption = y.toOption) (hf : ∀ value, (f value).toOption = (g value).toOption) :
    (x >>= f).toOption = (y >>= g).toOption := by
  rw [toOption_bind, toOption_bind, h]
  simp only [hf]

theorem eq_ok_iff_of_toOption {ε α : Type} {x y : Except ε α} (h : x.toOption = y.toOption)
    (value : α) : x = .ok value ↔ y = .ok value := by
  cases x <;> cases y <;> simp_all [Except.toOption]

namespace Shape

variable {δ α : Type} (shape : Shape δ α)

/-! ## What one member does -/

/-- Read a member into a draft. -/
def enter (draft : δ) (member : Member) : Except Fault δ := do
  shape.add draft (← member.1) member.2

/-- Reading the value as the member of that name puts `fill` into every draft, and nothing else. -/
structure Fills (name : String) (value : Node) (fill : δ → δ) : Prop where
  put draft : shape.put draft name value = .ok (fill draft)
  has_self draft : shape.has (fill draft) name = true
  has_other draft : ∀ other ∈ shape.names, other ≠ name →
    shape.has (fill draft) other = shape.has draft other
  put_other draft : ∀ other ∈ shape.names, other ≠ name → ∀ node,
    shape.put (fill draft) other node = fill <$> shape.put draft other node

/-- Every member is read without regard to the others. -/
structure Independent : Prop where
  reads : ∀ name ∈ shape.names, ∀ value,
    (∃ fault, ∀ draft, shape.put draft name value = .error fault) ∨
      ∃ fill, shape.Fills name value fill
  blank : ∀ name ∈ shape.names, shape.has shape.blank name = false

/-- What a member does to every draft. -/
inductive Effect (member : Member) : Prop where
  | refused (h : ∀ draft, ∃ fault, shape.enter draft member = .error fault)
  | ignored (h : ∀ draft, shape.enter draft member = .ok draft)
  | filled (name : String) (fill : δ → δ) (named : member.1 = .ok name)
      (known : name ∈ shape.names) (fills : shape.Fills name member.2 fill)
      (h : ∀ draft, shape.enter draft member =
        if shape.has draft name then .error (.repeatedMember name) else .ok (fill draft))

variable {shape} {draft next : δ} {name other : String} {value node : Node} {fill : δ → δ}
  {a b member : Member} {members before after : List Member}

theorem add_known (known : name ∈ shape.names) :
    shape.add draft name value =
      if shape.has draft name then .error (.repeatedMember name) else shape.put draft name value := by
  rw [add, if_neg (not_not_intro known)]

theorem add_unknown (unknown : name ∉ shape.names) :
    shape.add draft name value = (do value.skip; return draft) :=
  if_pos unknown

theorem Independent.effect (h : shape.Independent) (member : Member) : shape.Effect member := by
  obtain ⟨name, value⟩ := member
  cases name with
  | error fault => exact .refused fun _ => ⟨fault, rfl⟩
  | ok name =>
    by_cases known : name ∈ shape.names
    · rcases h.reads name known value with ⟨fault, bad⟩ | ⟨fill, fills⟩
      · apply Effect.refused
        intro draft
        show ∃ fault, shape.add draft name value = .error fault
        rw [add_known known, bad]
        split
        · exact ⟨_, rfl⟩
        · exact ⟨_, rfl⟩
      · apply Effect.filled name fill rfl known fills
        intro draft
        show shape.add draft name value = _
        rw [add_known known, fills.put]
    · cases skipped : value.skipFault? with
      | none =>
        apply Effect.ignored
        intro draft
        show shape.add draft name value = _
        rw [add_unknown known, Node.skip, skipped]
        rfl
      | some fault =>
        apply Effect.refused
        intro draft
        refine ⟨fault, ?_⟩
        show shape.add draft name value = _
        rw [add_unknown known, Node.skip, skipped]
        rfl

/-! ## Two members -/

/-- Read two members, one after the other. -/
def enterBoth (shape : Shape δ α) (draft : δ) (a b : Member) : Except Fault δ :=
  shape.enter draft a >>= fun next => shape.enter next b

/-- A member that no draft accepts can stand first or last. -/
theorem enterBoth_refused (h : ∀ draft, ∃ fault, shape.enter draft a = .error fault) (draft : δ)
    (b : Member) :
    (shape.enterBoth draft a b).toOption = none ∧ (shape.enterBoth draft b a).toOption = none := by
  constructor
  · obtain ⟨fault, refused⟩ := h draft
    rw [enterBoth, refused]
    rfl
  · rw [enterBoth]
    cases shape.enter draft b with
    | error fault => rfl
    | ok next =>
      obtain ⟨fault, refused⟩ := h next
      show (shape.enter next a).toOption = none
      rw [refused]
      rfl

theorem enterBoth_ignored (h : ∀ draft, shape.enter draft a = .ok draft) (draft : δ) (b : Member) :
    shape.enterBoth draft a b = shape.enter draft b ∧
      shape.enterBoth draft b a = shape.enter draft b := by
  constructor
  · rw [enterBoth, h]
    rfl
  · rw [enterBoth]
    cases shape.enter draft b with
    | error fault => rfl
    | ok next => exact h next

/-- Members of different names are put into different places. -/
theorem Fills.comm {w : Node} {g : δ → δ} (hf : shape.Fills name value fill)
    (hg : shape.Fills other w g) (known : other ∈ shape.names) (ne : other ≠ name) (draft : δ) :
    g (fill draft) = fill (g draft) := by
  have there := hf.put_other draft other known ne w
  rw [hg.put, hg.put] at there
  exact Except.ok.inj there

theorem enterBoth_filled {f g : δ → δ}
    (first : ∀ draft, shape.enter draft a =
      if shape.has draft name then .error (.repeatedMember name) else .ok (f draft))
    (second : ∀ draft, shape.enter draft b =
      if shape.has draft other then .error (.repeatedMember other) else .ok (g draft)) (draft : δ) :
    shape.enterBoth draft a b =
      if shape.has draft name then .error (.repeatedMember name)
      else if shape.has (f draft) other then .error (.repeatedMember other)
      else .ok (g (f draft)) := by
  rw [enterBoth, first]
  split
  · rfl
  · exact second (f draft)

/-- Two members can change places. -/
theorem Independent.swap (h : shape.Independent) (draft : δ) (a b : Member) :
    (shape.enterBoth draft a b).toOption = (shape.enterBoth draft b a).toOption := by
  rcases h.effect a with refused | ignored | ⟨name, f, -, hname, hf, first⟩
  · obtain ⟨before, after⟩ := enterBoth_refused refused draft b
    rw [before, after]
  · obtain ⟨before, after⟩ := enterBoth_ignored ignored draft b
    rw [before, after]
  rcases h.effect b with refused | ignored | ⟨other, g, -, hother, hg, second⟩
  · obtain ⟨before, after⟩ := enterBoth_refused refused draft a
    rw [before, after]
  · obtain ⟨before, after⟩ := enterBoth_ignored ignored draft a
    rw [before, after]
  rw [enterBoth_filled first second, enterBoth_filled second first]
  by_cases same : other = name
  · -- A name that comes twice is refused the second time, if not the first.
    subst same
    rw [hf.has_self, hg.has_self]
    rfl
  · rw [hf.has_other draft other hother same, hg.has_other draft name hname (Ne.symm same),
      hf.comm hg hother same]
    cases shape.has draft name <;> cases shape.has draft other <;> rfl

/-! ## All members -/

theorem collect_eq (draft : δ) (members : List Member) :
    shape.collect draft members = members.foldlM shape.enter draft :=
  rfl

theorem collect_step (draft : δ) (member : Member) (rest : List Member) :
    shape.collect draft (member :: rest) =
      shape.enter draft member >>= fun next => shape.collect next rest := by
  rw [collect_eq, List.foldlM_cons]
  rfl

theorem collect_append (draft : δ) (before after : List Member) :
    shape.collect draft (before ++ after) =
      shape.collect draft before >>= fun next => shape.collect next after := by
  rw [collect_eq, List.foldlM_append]
  rfl

/-- **Order.** The order of the members decides neither whether they can be collected nor what they are
collected to. -/
theorem Independent.collect_perm (h : shape.Independent) {members members' : List Member}
    (perm : members.Perm members') (draft : δ) :
    (shape.collect draft members).toOption = (shape.collect draft members').toOption := by
  induction perm generalizing draft with
  | nil => rfl
  | cons member _ ih =>
    rw [collect_step, collect_step]
    exact toOption_bind_congr rfl ih
  | swap a b rest =>
    have two (a b : Member) : shape.collect draft (a :: b :: rest) =
        shape.enterBoth draft a b >>= fun next => shape.collect next rest := by
      rw [collect_step, enterBoth, bind_assoc]
      exact congrArg _ (funext fun next => collect_step next b rest)
    rw [two, two]
    exact toOption_bind_congr (h.swap draft b a) fun _ => rfl
  | trans _ _ ih ih' => exact (ih draft).trans (ih' draft)

/-! ## Leaving a member out -/

theorem Fills.enter_other (h : shape.Fills name value fill) (absent : member.1 ≠ .ok name)
    (draft : δ) : shape.enter (fill draft) member = fill <$> shape.enter draft member := by
  obtain ⟨key, node⟩ := member
  cases key with
  | error fault => rfl
  | ok other =>
    have ne : other ≠ name := fun same => absent (congrArg _ same)
    show shape.add (fill draft) other node = fill <$> shape.add draft other node
    by_cases known : other ∈ shape.names
    · rw [add_known known, add_known known, h.has_other draft other known ne,
        h.put_other draft other known ne]
      split <;> rfl
    · rw [add_unknown known, add_unknown known]
      cases node.skip <;> rfl

/-- What a member has put into a draft stays there, and is in nobody's way. -/
theorem Fills.collect_other (h : shape.Fills name value fill)
    (absent : .ok name ∉ members.map Prod.fst) (draft : δ) :
    shape.collect (fill draft) members = fill <$> shape.collect draft members := by
  induction members generalizing draft with
  | nil => rfl
  | cons member rest ih =>
    rw [List.map_cons, List.mem_cons, not_or] at absent
    rw [collect_step, collect_step, h.enter_other (Ne.symm absent.1)]
    cases shape.enter draft member with
    | error fault => rfl
    | ok next => exact ih absent.2 next

theorem Independent.has_enter (h : shape.Independent) (known : name ∈ shape.names)
    (absent : member.1 ≠ .ok name) (entered : shape.enter draft member = .ok next) :
    shape.has next name = shape.has draft name := by
  rcases h.effect member with refused | ignored | ⟨other, f, named, -, hf, filled⟩
  · obtain ⟨fault, refused⟩ := refused draft
    rw [refused] at entered
    cases entered
  · rw [ignored] at entered
    cases entered
    rfl
  · rw [filled] at entered
    split at entered
    · cases entered
    · cases entered
      apply hf.has_other draft name known
      rintro rfl
      exact absent named

theorem Independent.has_collect (h : shape.Independent) (known : name ∈ shape.names)
    (absent : .ok name ∉ members.map Prod.fst) (collected : shape.collect draft members = .ok next) :
    shape.has next name = shape.has draft name := by
  induction members generalizing draft with
  | nil =>
    cases collected
    rfl
  | cons member rest ih =>
    rw [List.map_cons, List.mem_cons, not_or] at absent
    rw [collect_step] at collected
    cases entered : shape.enter draft member with
    | error fault =>
      rw [entered] at collected
      cases collected
    | ok middle =>
      rw [entered] at collected
      rw [ih absent.2 collected, h.has_enter known (Ne.symm absent.1) entered]

variable (shape) in
/-- Writing the value as the member of that name says what is said anyway without it. -/
structure Redundant (name : String) (value : Node) : Prop where
  known : name ∈ shape.names
  fills : ∃ fill, shape.Fills name value fill ∧
    ∀ draft, shape.has draft name = false → shape.finish (fill draft) = shape.finish draft

theorem read_closed (members : List Member) :
    shape.read (.object members .closed) =
      shape.collect shape.blank members >>= fun draft =>
        (shape.finish draft).mapError .missingMember :=
  rfl

/-- **Defaults.** A redundant member can be left out: the structure is the same, or the fault is. -/
theorem Independent.read_insert (h : shape.Independent) (redundant : shape.Redundant name value)
    (absent : .ok name ∉ (before ++ after).map Prod.fst) :
    shape.read (.object (before ++ (.ok name, value) :: after) .closed) =
      shape.read (.object (before ++ after) .closed) := by
  obtain ⟨known, fill, fills, same⟩ := redundant
  rw [List.map_append, List.mem_append, not_or] at absent
  rw [read_closed, read_closed, collect_append, collect_append]
  cases first : shape.collect shape.blank before with
  | error fault => rfl
  | ok draft =>
    -- No member of that name comes before, so the value is taken.  None comes after either, so what is
    -- collected without the value still lacks the member at the end, where the default takes its place.
    have new : shape.has draft name = false :=
      (h.has_collect known absent.1 first).trans (h.blank name known)
    have entered : shape.enter draft (.ok name, value) = .ok (fill draft) := by
      show shape.add draft name value = _
      rw [add_known known, new, fills.put]
      rfl
    have collected : shape.collect draft ((.ok name, value) :: after) =
        fill <$> shape.collect draft after := by
      rw [collect_step, entered]
      exact fills.collect_other absent.2 draft
    show shape.collect draft _ >>= _ = shape.collect draft after >>= _
    rw [collected]
    cases last : shape.collect draft after with
    | error fault => rfl
    | ok final =>
      have lacking : shape.has final name = false := (h.has_collect known absent.2 last).trans new
      show (shape.finish (fill final)).mapError _ = (shape.finish final).mapError _
      rw [same final lacking]

/-- A member can be written in any way that its reader does not tell apart. -/
theorem read_replace (known : name ∈ shape.names)
    (same : ∀ draft, shape.put draft name value = shape.put draft name node)
    (before after : List Member) :
    shape.read (.object (before ++ (.ok name, value) :: after) .closed) =
      shape.read (.object (before ++ (.ok name, node) :: after) .closed) := by
  have entered (draft : δ) :
      shape.enter draft (.ok name, value) = shape.enter draft (.ok name, node) := by
    show shape.add draft name value = shape.add draft name node
    rw [add_known known, add_known known, same]
  simp only [read_closed, collect_append, collect_step, entered]

/-! ## Places in a draft -/

section Slots

variable {β : Type} {read : Node → Except Fault β} {store : β → δ → δ} {value' : Node} {x : β}

variable (shape name read store) in
/-- The member of that name has a reader and a place in the draft, both of its own. -/
structure Slot : Prop where
  put draft value : shape.put draft name value = (store · draft) <$> read value
  has_self draft x : shape.has (store x draft) name = true
  has_other draft x : ∀ other ∈ shape.names, other ≠ name →
    shape.has (store x draft) other = shape.has draft other
  put_other draft x : ∀ other ∈ shape.names, other ≠ name → ∀ node,
    shape.put (store x draft) other node = store x <$> shape.put draft other node

theorem Slot.fills (slot : shape.Slot name read store) (hread : read value = .ok x) :
    shape.Fills name value (store x) where
  put draft := by
    rw [slot.put, hread]
    rfl
  has_self draft := slot.has_self draft x
  has_other draft := slot.has_other draft x
  put_other draft := slot.put_other draft x

theorem Slot.reads (slot : shape.Slot name read store) (value : Node) :
    (∃ fault, ∀ draft, shape.put draft name value = .error fault) ∨
      ∃ fill, shape.Fills name value fill := by
  cases hread : read value with
  | error fault =>
    refine Or.inl ⟨fault, fun draft => ?_⟩
    rw [slot.put, hread]
    rfl
  | ok x => exact Or.inr ⟨store x, slot.fills hread⟩

theorem Slot.put_alike (slot : shape.Slot name read store)
    (alike : (read value).toOption = (read value').toOption) (draft : δ) :
    (shape.put draft name value).toOption = (shape.put draft name value').toOption := by
  rw [slot.put, slot.put]
  exact toOption_bind_congr alike fun _ => rfl

theorem Slot.redundant (slot : shape.Slot name read store) (known : name ∈ shape.names)
    (hread : read value = .ok x)
    (same : ∀ draft, shape.has draft name = false →
      shape.finish (store x draft) = shape.finish draft) :
    shape.Redundant name value :=
  ⟨known, store x, slot.fills hread, same⟩

end Slots

/-! ## Members that say the same -/

section Alike

variable (shape) (inside : String → Node → Node → Prop) (default : String → Node → Prop)

/-- The second object has one more member than the first: one with its default value. -/
inductive LeavesOut : List Member → List Member → Prop where
  | intro {name : String} {value : Node} (before after : List Member) (h : default name value)
      (absent : .ok name ∉ (before ++ after).map Prod.fst) :
      LeavesOut (before ++ after) (before ++ (.ok name, value) :: after)

/-- The members of two objects that say the same. -/
inductive Alike : List Member → List Member → Prop where
  | refl (members : List Member) : Alike members members
  | symm {members members' : List Member} (h : Alike members members') : Alike members' members
  | trans {members middle members' : List Member} (h : Alike members middle)
      (h' : Alike middle members') : Alike members members'
  /-- In another order. -/
  | reordered {members members' : List Member} (h : members.Perm members') : Alike members members'
  /-- With a member of another name and any well-formed value. -/
  | unknown {name : String} {value : Node} {s : List Char} (members : List Member)
      (h : name ∉ shape.names) (spelled : Spells (.value value) s) :
      Alike members ((.ok name, value) :: members)
  /-- Without a member that has its default value. -/
  | leavesOut {members members' : List Member} (h : LeavesOut default members members') :
      Alike members members'
  /-- With a value that says the same. -/
  | inside {name : String} {value value' : Node} (members : List Member)
      (h : inside name value value') :
      Alike ((.ok name, value) :: members) ((.ok name, value') :: members)

/-- The same value, or two objects that say the same. -/
inductive AlikeValue : Node → Node → Prop where
  | same (node : Node) : AlikeValue node node
  | members {members members' : List Member} (h : Alike shape inside default members members') :
      AlikeValue (.object members .closed) (.object members' .closed)

/-- The values that count as alike are read alike, and the defaults are redundant. -/
structure Tolerates : Prop where
  independent : shape.Independent
  known : ∀ name value value', inside name value value' → name ∈ shape.names
  reads : ∀ name value value', inside name value value' → ∀ draft,
    (shape.put draft name value).toOption = (shape.put draft name value').toOption
  redundant : ∀ name value, default name value → shape.Redundant name value

variable {shape inside default}

theorem Tolerates.read_leavesOut (h : shape.Tolerates inside default) {members members' : List Member}
    (shorter : LeavesOut default members members') :
    shape.read (.object members .closed) = shape.read (.object members' .closed) := by
  obtain ⟨before, after, usual, absent⟩ := shorter
  exact (h.independent.read_insert (h.redundant _ _ usual) absent).symm

/-- **Members.** Objects whose members say the same are read as the same structure, if any. -/
theorem Tolerates.read_alike (h : shape.Tolerates inside default) {members members' : List Member}
    (alike : shape.Alike inside default members members') :
    (shape.read (.object members .closed)).toOption =
      (shape.read (.object members' .closed)).toOption := by
  induction alike with
  | refl => rfl
  | symm _ ih => exact ih.symm
  | trans _ _ ih ih' => exact ih.trans ih'
  | reordered perm =>
    rw [read_closed, read_closed]
    exact toOption_bind_congr (h.independent.collect_perm perm shape.blank) fun _ => rfl
  | @unknown name value s members unknown spelled =>
    have skipped : value.skipFault? = none := spelled.skipFault?_eq_none
    have entered : shape.enter shape.blank (.ok name, value) = .ok shape.blank := by
      show shape.add shape.blank name value = _
      rw [add_unknown unknown, Node.skip, skipped]
      rfl
    rw [read_closed, read_closed, collect_step, entered]
    rfl
  | leavesOut shorter => rw [h.read_leavesOut shorter]
  | @inside name value value' members same =>
    have known := h.known name value value' same
    have entered : (shape.enter shape.blank (.ok name, value)).toOption =
        (shape.enter shape.blank (.ok name, value')).toOption := by
      show (shape.add shape.blank name value).toOption = (shape.add shape.blank name value').toOption
      rw [add_known known, add_known known, h.independent.blank name known]
      exact h.reads name value value' same shape.blank
    rw [read_closed, read_closed, collect_step, collect_step]
    exact toOption_bind_congr (toOption_bind_congr entered fun _ => rfl) fun _ => rfl

theorem Tolerates.read_alikeValue (h : shape.Tolerates inside default) {node node' : Node}
    (alike : shape.AlikeValue inside default node node') :
    (shape.read node).toOption = (shape.read node').toOption := by
  cases alike with
  | same => rfl
  | members alike => exact h.read_alike alike

end Alike

end Shape

end Divert.Json
