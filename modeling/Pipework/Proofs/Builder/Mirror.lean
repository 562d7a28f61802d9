import Pipework.Proofs.Engine.Mirror

set_option autoImplicit false

/-!
# Pipelines side by side

Conversions, stages and whole pipelines do the same in two states that hold the same up to the
numbers of cells, and the apps that are built run in the same way.

## Main results

* `mirrored_convertIn`, `Stage.mirrored_apply`, `Builder.mirrored_fold` — conversions and stages.
* `App.run_mirror` — apps that are the same up to the numbers run in the same way.
-/

namespace Pipework

variable {ν : Renumbering} {k : RegistryId}

/-! ## Components -/

/-- Making a component of a type has the same outcome up to the numbers. -/
lemma ComponentType.mirrored_make (t : ComponentType) {args : List Content}
    (h : ν.Covers (args.flatMap Content.cells)) :
    Engine.Mirrored ν k ν.Instances (t.make args)
      (t.make (args.map (Content.renumber ν.map))) := by
  have hother : Engine.Mirrored ν k ν.Instances (pure (.mount "" .notFound .notFound))
      (pure (.mount "" .notFound .notFound)) := .pure ⟨rfl, .nil⟩
  cases t with
  | crafted cls label ops ctors =>
    refine (mirrored_hold h).bind fun l l' hl => ?_
    obtain ⟨rfl, hcovers⟩ := hl
    rw [callLine_renumber]
    refine (Engine.Mirrored.logCall _).seq fun _ _ =>
      (Engine.Mirrored.newCell ⟨rfl, hcovers⟩).bind fun c c' hc => .pure ?_
    rw [hc.1]
    exact ⟨rfl, fun d hd => List.mem_singleton.1 hd ▸ hc.2⟩
  | mount =>
    obtain _ | ⟨c, _ | ⟨d, _ | _⟩⟩ := args
    · exact hother
    · cases c with
      | app form a => cases form <;> exact hother
      | _ => exact hother
    · cases c with
      | app form next =>
        cases form with
        | func =>
          cases d with
          | mapOptions path branch =>
            simp only [List.flatMap_cons, Content.cells, Renumbering.covers_append] at h
            exact .pure ⟨rfl, Renumbering.covers_append.2 ⟨h.2.1, h.1⟩⟩
          | _ => exact hother
        | _ => exact hother
      | _ => exact hother
    · cases c with
      | app form a => cases form <;> cases d <;> exact hother
      | _ => exact hother

/-- So has constructing one from arguments. -/
lemma ComponentType.mirrored_constructWith (t : ComponentType) (params : List Shape) {args : Args}
    (h : ν.Covers args.cells) :
    Assembly.Mirrored ν k ν.Values (t.constructWith params args)
      (t.constructWith params (args.renumber ν.map)) := by
  refine .bind (.ofExcept (outcomes_extractAll params h)) fun cs cs' hcs => ?_
  obtain ⟨rfl, -, hcovers⟩ := hcs
  refine .bind (.lift (t.mirrored_make hcovers)) fun i i' hi => .pure ?_
  rw [hi.1]
  exact ⟨rfl, hi.2⟩

/-! ## Conversions -/

section Convert

variable {edges : List Conversion} (hedges : ∀ c ∈ edges, ν.Covers c.routine.cells)
  {v : Value} (hv : ν.Covers v.cells) (t : Convention)

/-- Sending a value along an edge has the same outcome up to the numbers. -/
lemma Conversion.mirrored_apply {c : Conversion} (hc : ν.Covers c.routine.cells) {v : Value}
    (hv : ν.Covers v.cells) :
    Assembly.Mirrored ν k ν.Values (c.apply v)
      ((c.renumber ν.map).apply (v.renumber ν.map)) := by
  have hargs : ν.Covers (Args.cells [v]) := by simpa [Args.cells] using hv
  exact Routine.mirrored_invoke hc hargs

include hedges hv

/-- So has sending it along the first edge that leads to the target at once. -/
lemma mirrored_oneHop : Assembly.Mirrored ν k ν.Hops (oneHop edges v t)
    (oneHop (edges.map (Conversion.renumber ν.map)) (v.renumber ν.map) t) := by
  unfold oneHop
  rw [Value.satisfies_renumber, boundInvoke?_renumber, directEdge?_renumber]
  split
  · exact .pure ⟨rfl, hv⟩
  cases ho : boundInvoke? v t with
  | some o => exact .pure ⟨rfl, fun c hc => hv c (cells_boundInvoke? ho c hc)⟩
  | none =>
    cases hc : directEdge? edges v t with
    | none => exact .pure ⟨rfl, .nil⟩
    | some c =>
      refine (c.mirrored_apply (hedges c (List.mem_of_find?_eq_some hc)) hv).bind
        fun out out' hout => .pure ?_
      rw [hout.1]
      exact ⟨rfl, hout.2⟩

/-- So has bringing it to the source of an edge. -/
lemma mirrored_approach {c : Conversion} : Assembly.Mirrored ν k ν.Hops (approach edges v c)
    (approach (edges.map (Conversion.renumber ν.map)) (v.renumber ν.map)
      (c.renumber ν.map)) := by
  unfold approach
  rw [Conversion.accepts_renumber]
  split
  · exact .pure ⟨rfl, hv⟩
  · exact mirrored_oneHop hedges hv _

/-- So has trying the edges one after the other as the last one of a longer way. -/
lemma mirrored_through : ∀ rest, (∀ c ∈ rest, c ∈ edges) →
    Assembly.Mirrored ν k ν.Hops (through edges v t rest)
      (through (edges.map (Conversion.renumber ν.map)) (v.renumber ν.map) t
        (rest.map (Conversion.renumber ν.map))) := by
  intro rest
  induction rest with
  | nil => exact fun _ => .pure ⟨rfl, .nil⟩
  | cons e rest ih =>
    intro hrest
    have he := hedges e (hrest e List.mem_cons_self)
    have ih := ih fun c hc => hrest c (List.mem_cons_of_mem _ hc)
    rw [List.map_cons]
    unfold through
    refine (mirrored_approach hedges hv).bind fun found found' hfound => ?_
    obtain ⟨rfl, hcovers⟩ := hfound
    cases found with
    | none => exact ih
    | some way =>
      refine (e.mirrored_apply he hcovers).bind fun middle middle' hmiddle => ?_
      obtain ⟨rfl, hmiddle⟩ := hmiddle
      refine (mirrored_oneHop hedges hmiddle t).bind fun found found' hfound => ?_
      obtain ⟨rfl, hcovers⟩ := hfound
      cases found with
      | none => exact ih
      | some way => exact .pure ⟨rfl, hcovers⟩

/-- Conversions do the same. -/
lemma mirrored_convert : Assembly.Mirrored ν k ν.Values (convert edges v t)
    (convert (edges.map (Conversion.renumber ν.map)) (v.renumber ν.map) t) := by
  have hsearch : Assembly.Mirrored ν k ν.Hops (search edges v t)
      (search (edges.map (Conversion.renumber ν.map)) (v.renumber ν.map) t) := by
    refine (mirrored_oneHop hedges hv t).bind fun found found' hfound => ?_
    obtain ⟨rfl, hcovers⟩ := hfound
    cases found with
    | none => exact mirrored_through hedges hv t edges fun _ h => h
    | some way => exact .pure ⟨rfl, hcovers⟩
  unfold convert
  refine hsearch.bind fun found found' hfound => ?_
  obtain ⟨rfl, hcovers⟩ := hfound
  rw [Value.shape_renumber]
  cases found with
  | none =>
    exact .seq (.lift (.report _ _)) fun _ _ => .seq (.lift (.raise _ _ _ _)) fun _ _ => .throw _
  | some way =>
    exact .seq (.lift (.report _ _)) fun _ _ => .seq (.lift (.raise _ _ _ _)) fun _ _ =>
      .pure ⟨rfl, hcovers⟩

end Convert

/-- So has a conversion in the registry that the two states share up to the numbers. -/
lemma mirrored_convertIn {v : Value} (hv : ν.Covers v.cells) (t : Convention) :
    Assembly.Mirrored ν k ν.Values (convertIn k v t) (convertIn k (v.renumber ν.map) t) := by
  refine .get_bind fun s s' hs => ?_
  rw [hs.edges]
  exact mirrored_convert hs.covered hv t

/-! ## Stages -/

/-- Stages make the same of the same app. -/
lemma Stage.mirrored_apply {st : Stage} (hst : ν.Covers st.cells) {next : Value}
    (hnext : ν.Covers next.cells) :
    Assembly.Mirrored ν k ν.Values (st.apply next)
      ((st.renumber ν.map).apply (next.renumber ν.map)) := by
  obtain ⟨hfactory, hargs⟩ := Renumbering.covers_append.1 hst
  have hall : ν.Covers (Args.cells (next :: st.args)) :=
    Renumbering.covers_append.2 ⟨hnext, hargs⟩
  unfold Stage.apply Stage.renumber
  generalize st.factory = made at hfactory
  cases made with
  | callable r => exact Routine.mirrored_invoke hfactory hall
  | told r component =>
    obtain ⟨hr, hcomponent⟩ := Renumbering.covers_append.1 hfactory
    dsimp only [Factory.renumber]
    rw [Assembly.discard_bind, Assembly.discard_bind]
    exact (Routine.mirrored_invoke hr hall).seq fun _ _ => .pure ⟨rfl, hcomponent⟩
  | invoke r => exact Routine.mirrored_invoke hfactory hall
  | construct t params => exact t.mirrored_constructWith params hall

/-- Stages that are put around the same app, one after the other. -/
lemma Builder.mirrored_fold {stages : List Stage} (hstages : ∀ st ∈ stages, ν.Covers st.cells)
    {app : Value} (happ : ν.Covers app.cells) :
    Assembly.Mirrored ν k ν.Values (fold k stages app)
      (fold k (stages.map (Stage.renumber ν.map)) (app.renumber ν.map)) := by
  induction stages generalizing app with
  | nil => exact .pure ⟨rfl, happ⟩
  | cons st rest ih =>
    obtain ⟨hst, hrest⟩ := List.forall_mem_cons.1 hstages
    refine (mirrored_convertIn happ _).bind fun next next' hnext => ?_
    obtain ⟨rfl, hnext⟩ := hnext
    refine (Stage.mirrored_apply hst hnext).bind fun made made' hmade => ?_
    obtain ⟨rfl, hmade⟩ := hmade
    refine (mirrored_convertIn hmade _).bind fun out out' hout => ?_
    obtain ⟨rfl, hout⟩ := hout
    exact ih hrest hout

/-! ## Apps -/

namespace App

/-- An app with other numbers does the same where its cells hold the same apps. -/
lemma runWith_renumber {held held' : CellId → Option (Environment → Environment)}
    (hheld : ∀ c ∈ ν.dom, held' (ν.map c) = held c) {a : App} (ha : ν.Covers a.cells)
    (e : Environment) : (a.renumber ν.map).runWith held' e = a.runWith held e := by
  induction a generalizing e with
  | notFound | leaf l => rfl
  | «over» l inner ih =>
    have hinner : (inner.renumber ν.map).runWith held' = inner.runWith held :=
      funext fun e => ih ha e
    rw [renumber, runWith, runWith, hinner]
  | resumed l cell =>
    rw [renumber, runWith, runWith, hheld cell (ha cell (List.mem_singleton_self cell))]
  | mount path branch next ihb ihn =>
    obtain ⟨hbranch, hnext⟩ := Renumbering.covers_append.1 ha
    have hrun : (branch.renumber ν.map).runWith held' = branch.runWith held :=
      funext fun e => ihb hbranch e
    rw [renumber, runWith, runWith, hrun, ihn hnext]
  | choose c branch next ihb ihn =>
    obtain ⟨hbranch, hnext⟩ := Renumbering.covers_append.1 ha
    rw [renumber, runWith, runWith, ihb hbranch, ihn hnext]
  | delegate inner ih => exact ih ha e

/-- Apps that are the same up to the numbers run in the same way. -/
lemma run_mirror {s s' : State} (hs : s.Mirrors ν k s') {a : App} (ha : ν.Covers a.cells)
    (depth : Nat) (e : Environment) :
    (a.renumber ν.map).run s'.heldApp depth e = a.run s.heldApp depth e := by
  induction depth generalizing a e with
  | zero => exact runWith_renumber (fun _ _ => rfl) ha e
  | succ depth ih =>
    refine runWith_renumber (fun c hc => ?_) ha e
    rw [hs.heldApp hc, Option.map_map]
    cases hheld : s.heldApp c with
    | none => rfl
    | some b =>
      have hb : ν.Covers b.cells := fun d hd =>
        (hs.entries c hc).2 d (mem_heldCells_of_app? hheld hd)
      exact congrArg some (funext (ih hb))

end App

end Pipework
