import Mathlib.Data.List.Basic
import Pipework.Config.Schema

set_option autoImplicit false

/-!
# What a section becomes

A section is read field by field. Each value in it is set by one of the fields, which has a name and
a place; so what the value is afterwards depends on what the document has under that name, or at
that place, and on nothing else.

## Main definitions

* `Node.part?` — the part of a document for a field.
* `Schema.Settled` — a value is what a part of a document says, or what it was if there is none.
* `Schema.Owned` — one field sets a value, and the others leave it alone.

## Main results

* `Schema.settled_of_readSection` — a section that has been read is what the document says.
-/

namespace Pipework

/-- The part of a document for the field at a place and of a name: in a table the member of that
name, in a sequence the element at that place. -/
def Node.part? (place : Nat) (name : String) : Node → Option Node
  | .table members _ => (members.find? fun m => m.1 = name).map Prod.snd
  | .seq items _ => items[place]?
  | _ => none

namespace Schema

/-- Two steps succeed if the first one does and the second one does with its result. -/
lemma exists_of_bind {ε α β : Type} {x : Except ε α} {f : α → Except ε β} {b : β}
    (h : x >>= f = .ok b) : ∃ a, x = .ok a ∧ f a = .ok b := by
  cases x with
  | error e => cases h
  | ok a => exact ⟨a, rfl, h⟩

variable {σ β : Type}

/-- A value is what a part of a document says, or what it was before if there is no such part. -/
def Settled (Tells : Node → β → Prop) (part : Option Node) (before after : β) : Prop :=
  match part with
  | some v => Tells v after
  | none => after = before

/-- A field of a name sets a value to what the document says. -/
structure Field.Sets (f : Field σ) (name : String) (get : σ → β) (Tells : Node → β → Prop) :
    Prop where
  name_eq : f.name = name
  tells : ∀ {v s s'}, f.read v s = .ok s' → Tells v (get s')

/-- A field of another name leaves a value alone. -/
structure Field.Spares (f : Field σ) (name : String) (get : σ → β) : Prop where
  name_ne : f.name ≠ name
  get_eq : ∀ {v s s'}, f.read v s = .ok s' → get s' = get s

/-- The field at a place sets a value, and all others leave it alone. -/
inductive Owned (name : String) (get : σ → β) (Tells : Node → β → Prop) :
    Nat → List (Field σ) → Prop
  | here {f : Field σ} {fields : List (Field σ)} (h : f.Sets name get Tells)
      (hrest : fields.Forall (·.Spares name get)) : Owned name get Tells 0 (f :: fields)
  | there {g : Field σ} {fields : List (Field σ)} {place : Nat} (h : g.Spares name get)
      (hrest : Owned name get Tells place fields) : Owned name get Tells (place + 1) (g :: fields)

section

variable {name : String} {get : σ → β} {Tells : Node → β → Prop}

/-- A field that is read on its own and then stored. -/
lemma exists_of_read {α : Type} {name : String} {read : Node → Except Mismatch α}
    {store : σ → α → σ} {v : Node} {s s' : σ} (h : (Field.of name read store).read v s = .ok s') :
    ∃ a, read v = .ok a ∧ s' = store s a := by
  have hread : (read v >>= fun a => .ok (store s a)) = .ok s' := by
    rw [← h]
    cases hv : read v <;> simp [Field.of, hv] <;> rfl
  obtain ⟨a, ha, hs⟩ := exists_of_bind hread
  exact ⟨a, ha, (Except.ok.inj hs).symm⟩

/-- A field that is read on its own sets the value that it stores. -/
lemma Field.Sets.of {α : Type} {read : Node → Except Mismatch α} {store : σ → α → σ}
    (h : ∀ {v a} s, read v = .ok a → Tells v (get (store s a))) :
    (Field.of name read store).Sets name get Tells where
  name_eq := rfl
  tells := by
    intro v s s' hread
    obtain ⟨a, ha, rfl⟩ := exists_of_read hread
    exact h s ha

/-- A field that is stored elsewhere spares the value. -/
lemma Field.Spares.of {α : Type} {other : String} {read : Node → Except Mismatch α}
    {store : σ → α → σ} (hne : other ≠ name) (h : ∀ s a, get (store s a) = get s) :
    (Field.of other read store).Spares name get where
  name_ne := hne
  get_eq := by
    intro v s s' hread
    obtain ⟨a, -, rfl⟩ := exists_of_read hread
    exact h s a

/-- Among the fields around an owner each one sets the value or spares it. -/
lemma Owned.sets_or_spares {place : Nat} {fields : List (Field σ)}
    (h : Owned name get Tells place fields) {f : Field σ} (hf : f ∈ fields) :
    f.Sets name get Tells ∨ f.Spares name get := by
  induction h with
  | here hsets hrest =>
    obtain rfl | hf := List.mem_cons.1 hf
    · exact .inl hsets
    · exact .inr (List.forall_iff_forall_mem.1 hrest f hf)
  | there hspares _ ih =>
    obtain rfl | hf := List.mem_cons.1 hf
    · exact .inr hspares
    · exact ih hf

/-! ## Reading by names -/

variable {fields : List (Field σ)}

/-- A container that has been read to its end changes nothing any more. -/
lemma eq_of_ended {complete : Bool} {s s' : σ} (h : ended complete s = .ok s') : s' = s := by
  cases complete <;> cases h
  rfl

/-- The first of some members that have been read is a field that has not been seen before. -/
lemma exists_of_readMembers {complete : Bool} {seen : List String} {s s' : σ} {k : String}
    {v : Node}
    {rest : List (String × Node)}
    (h : readMembers fields complete seen s ((k, v) :: rest) = .ok s') :
    ∃ f ∈ fields, f.name = k ∧ k ∉ seen ∧ ∃ s₁, f.read v s = .ok s₁ ∧
      readMembers fields complete (k :: seen) s₁ rest = .ok s' := by
  unfold readMembers at h
  split at h
  · cases h
  · next f hf =>
    split_ifs at h with hseen
    have hname : f.name = k := by simpa using List.find?_some hf
    exact ⟨f, List.mem_of_find?_eq_some hf, hname, by simpa using hseen, exists_of_bind h⟩

/-- A name does not come again. -/
lemma find?_eq_none_of_readMembers {complete : Bool} {members : List (String × Node)}
    {seen : List String} (hseen : name ∈ seen) {s s' : σ}
    (h : readMembers fields complete seen s members = .ok s') :
    (members.find? fun m => m.1 = name) = none := by
  induction members generalizing seen s with
  | nil => rfl
  | cons m rest ih =>
    obtain ⟨f, -, -, hnew, s₁, -, hrest⟩ := exists_of_readMembers h
    have hne : m.1 ≠ name := fun hm => hnew (hm ▸ hseen)
    rw [List.find?_cons_of_neg (by simpa using hne)]
    exact ih (List.mem_cons_of_mem _ hseen) hrest

/-- Members of a table settle a value by the first member of its name. -/
lemma settled_of_readMembers {place : Nat} (howned : Owned name get Tells place fields)
    {complete : Bool} {members : List (String × Node)} {seen : List String} {s s' : σ}
    (h : readMembers fields complete seen s members = .ok s') :
    Settled Tells ((members.find? fun m => m.1 = name).map Prod.snd) (get s) (get s') := by
  induction members generalizing seen s with
  | nil => exact congrArg get (eq_of_ended h)
  | cons m rest ih =>
    obtain ⟨f, hf, hname, -, s₁, hread, hrest⟩ := exists_of_readMembers h
    obtain hsets | hspares := howned.sets_or_spares hf
    · have hm : m.1 = name := hname.symm.trans hsets.name_eq
      -- The rest has no member of this name, so the value stays as it has been set.
      have hkept := ih hrest
      rw [find?_eq_none_of_readMembers (hm ▸ List.mem_cons_self) hrest] at hkept
      have hget : get s' = get s₁ := hkept
      rw [List.find?_cons_of_pos (by simpa using hm)]
      exact hget ▸ hsets.tells hread
    · have hm : m.1 ≠ name := fun hm => hspares.name_ne (hname.trans hm)
      rw [List.find?_cons_of_neg (by simpa using hm), ← hspares.get_eq hread]
      exact ih hrest

/-! ## Reading by places -/

/-- The first of some elements that have been read is read by the first field. -/
lemma exists_of_readItems {format : DocumentFormat} {complete : Bool} {s s' : σ} {f : Field σ}
    {v : Node} {rest : List Node}
    (h : readItems format complete s (f :: fields) (v :: rest) = .ok s') :
    ∃ s₁, f.read v s = .ok s₁ ∧ readItems format complete s₁ fields rest = .ok s' := by
  unfold readItems at h
  exact exists_of_bind h

/-- A list without items changes nothing. -/
lemma eq_of_readItems_nil {format : DocumentFormat} {complete : Bool} {s s' : σ}
    (h : readItems format complete s fields [] = .ok s') : s' = s := by
  cases fields <;> exact eq_of_ended h

/-- Fields that leave a value alone leave it alone together. -/
lemma get_of_readItems {format : DocumentFormat} {complete : Bool} {items : List Node} {s s' : σ}
    (hspares : fields.Forall (·.Spares name get))
    (h : readItems format complete s fields items = .ok s') : get s' = get s := by
  induction fields generalizing s items with
  | nil =>
    cases items with
    | nil => exact congrArg get (eq_of_readItems_nil h)
    | cons v rest =>
      unfold readItems at h
      split_ifs at h
      cases h
      rfl
  | cons f fields ih =>
    cases items with
    | nil => exact congrArg get (eq_of_readItems_nil h)
    | cons v rest =>
      obtain ⟨hfirst, hothers⟩ := (List.forall_cons ..).1 hspares
      obtain ⟨s₁, hread, hrest⟩ := exists_of_readItems h
      exact (ih hothers hrest).trans (hfirst.get_eq hread)

/-- Items of a list settle a value by the item at its place. -/
lemma settled_of_readItems {place : Nat} (howned : Owned name get Tells place fields)
    {format : DocumentFormat} {complete : Bool} {items : List Node} {s s' : σ}
    (h : readItems format complete s fields items = .ok s') :
    Settled Tells items[place]? (get s) (get s') := by
  induction howned generalizing s items with
  | here hsets hrest =>
    cases items with
    | nil => exact congrArg get (eq_of_readItems_nil h)
    | cons v rest =>
      obtain ⟨s₁, hread, hitems⟩ := exists_of_readItems h
      exact get_of_readItems hrest hitems ▸ hsets.tells hread
  | there hspares _ ih =>
    cases items with
    | nil => exact congrArg get (eq_of_readItems_nil h)
    | cons v rest =>
      obtain ⟨s₁, hread, hitems⟩ := exists_of_readItems h
      rw [List.getElem?_cons_succ, ← hspares.get_eq hread]
      exact ih hitems

/-! ## Reading a section -/

/-- A value of a section is what the document has for it, or what the section starts with. -/
lemma settled_of_readSection {place : Nat} (howned : Owned name get Tells place fields)
    {format : DocumentFormat} {title : String} {n : Node} {s s' : σ}
    (h : readSection fields format title s n = .ok s') :
    Settled Tells (n.part? place name) (get s) (get s') := by
  unfold readSection at h
  split at h
  · exact settled_of_readMembers howned h
  · exact settled_of_readItems howned h
  · cases h
  · cases h
  · cases h

end

end Schema

end Pipework
