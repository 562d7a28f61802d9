import Pipework.Proofs.Builder.Moves
import Pipework.Proofs.Conversion.Account

set_option autoImplicit false

/-!
# The account of a build

The counters tell exactly what a build has done: every conversion that it has completed is counted
once, under the number of edges that it took, and the build itself is counted if it has come to its
end. A build that is given up by the last of its conversions leaves one failure behind, and one that
is given up for an argument leaves none.

## Main definitions

* `Tally.conversions` — all conversions, however many edges they took.
* `Deed.Along` — a move that was a conversion along a trail.
* `Counter.along`, `Counter.built`, `Counter.failed` — what conversions, a build and a failure
  count.

## Main results

* `Tally.conversions_raise` — raising a counter.
* `Deeds.exists_trails` — moves that were made one after the other.
* `Builder.buildValue_account` — the account of a build.
-/

namespace Pipework

/-! ## Totals of counters -/

namespace OrderedMap

variable {κ α : Type} [DecidableEq κ]

/-- A key that is not there is not written. -/
lemma overwrite_of_notMem {l : List (κ × α)} {k : κ} (h : k ∉ l.map Prod.fst) (a : α) :
    overwrite l k a = l := by
  refine (List.map_congr_left fun e he => if_neg fun hk => h ?_).trans (List.map_id' l)
  exact List.mem_map.2 ⟨e, he, hk⟩

/-- The total of a quantity of pairs. -/
def total (g : κ × α → Nat) : List (κ × α) → Nat
  | [] => 0
  | e :: l => g e + total g l

omit [DecidableEq κ] in
/-- One more entry adds what it counts for. -/
lemma total_concat (g : κ × α → Nat) (l : List (κ × α)) (e : κ × α) :
    total g (l ++ [e]) = total g l + g e := by
  induction l with
  | nil => exact Nat.add_comm _ _
  | cons d l ih => rw [List.cons_append, total, total, ih, Nat.add_assoc]

/-- Writing the value of a key puts the new pair in the place of the old one in every total. -/
lemma total_overwrite {l : List (κ × α)} (hl : (l.map Prod.fst).Nodup) {k : κ} {b : α}
    (h : (k, b) ∈ l) (a : α) (g : κ × α → Nat) :
    total g (overwrite l k a) + g (k, b) = total g l + g (k, a) := by
  induction l with
  | nil => cases h
  | cons e l ih =>
    obtain ⟨hnot, hl⟩ := List.nodup_cons.1 hl
    by_cases he : e.1 = k
    · -- the pair is at the front, and the key is nowhere else
      have hrest : overwrite l k a = l := overwrite_of_notMem (he ▸ hnot) a
      have hpair : (k, b) = e := by
        refine (List.mem_cons.1 h).resolve_right fun hmem => hnot ?_
        exact List.mem_map.2 ⟨(k, b), hmem, he.symm⟩
      have hhead : overwrite (e :: l) k a = (k, a) :: overwrite l k a := by
        simp [overwrite, he]
      rw [hhead, hrest, hpair, total, total]
      omega
    · have hmem : (k, b) ∈ l := by
        refine (List.mem_cons.1 h).resolve_left fun hpair => he ?_
        rw [← hpair]
      have hhead : overwrite (e :: l) k a = e :: overwrite l k a := by
        simp [overwrite, he]
      have hrest := ih hl hmem
      rw [hhead, total, total]
      omega

/-- Storing a value changes a total by the new pair and the one that it replaces. -/
lemma total_insert (m : OrderedMap κ α) (k : κ) (a : α) (g : κ × α → Nat) :
    total g (m.insert k a).entries + ((m.get? k).map fun b => g (k, b)).getD 0 =
      total g m.entries + g (k, a) := by
  by_cases hk : k ∈ m.keys
  · obtain ⟨⟨k', b⟩, hb, hk'⟩ := List.mem_map.1 hk
    obtain rfl : k' = k := hk'
    have hentries : (m.insert k' a).entries = overwrite m.entries k' a := by
      rw [insert, dif_pos hk]
    rw [hentries, get?_of_mem hb]
    exact total_overwrite m.nodup hb a g
  · have hentries : (m.insert k a).entries = m.entries ++ [(k, a)] := by
      rw [insert, dif_neg hk]
    have hget : m.get? k = none := by
      cases hget : m.get? k with
      | none => rfl
      | some b => exact absurd (List.mem_map.2 ⟨(k, b), mem_of_get? hget, rfl⟩) hk
    rw [hentries, hget, total_concat]
    rfl

end OrderedMap

/-- Whether conversions are counted here. -/
def Counter.isConversion : Counter → Bool
  | .conversion _ => true
  | _ => false

namespace Tally

/-- The share of a counter in the number of all conversions. -/
def share (e : Counter × Nat) : Nat := if e.1.isConversion then e.2 else 0

/-- The number of all conversions, however many edges they took. -/
def conversions (t : Tally) : Nat := OrderedMap.total share t.entries

/-- Raising a counter adds to the number of all conversions if it counts some of them. -/
lemma conversions_raise (t : Tally) (c : Counter) (n : Nat) :
    (t.raise c n).conversions = t.conversions + if c.isConversion then n else 0 := by
  unfold raise
  split
  · next hn =>
    rw [hn, ite_self]
    rfl
  · have htotal := OrderedMap.total_insert t c (t.count c + n) share
    unfold conversions
    unfold count at htotal ⊢
    cases hc : c.isConversion with
    | false =>
      have hshare (m : Nat) : share (c, m) = 0 := if_neg (by simp [hc])
      have hold : ((OrderedMap.get? t c).map fun _ => 0).getD 0 = 0 := by
        cases OrderedMap.get? t c <;> rfl
      simp only [hshare, hold] at htotal
      exact htotal
    | true =>
      have hshare (m : Nat) : share (c, m) = m := if_pos hc
      simp only [hshare, Option.map_id'] at htotal
      simp only [if_true]
      omega

end Tally

/-! ## Moves that were made -/

/-- Whether a move brings the app to a convention. -/
def Move.isConversion : Move → Bool
  | .bring _ => true
  | .call _ => false

/-- A move brought the app to a convention along a trail, which was followed last. -/
def Deed.Along (k : RegistryId) (d : Deed) (w : Trail) : Prop :=
  ∃ t s₀ s₁, d.move = .bring t ∧ w.Serves (d.before.registry k).edges d.input t ∧
    (w.run d.input).exec s₀ = (.ok d.output, s₁)

namespace Counter

/-- What conversions along some trails count: each one under the number of its edges. -/
def along (trails : List Trail) (c : Counter) : Nat :=
  trails.countP fun w => c = .conversion w.edges.length

/-- What a build of a number of stages counts, besides its conversions. -/
def built (stages : Nat) (kind : Convention.Kind) : Counter → Nat
  | .build k => if k = kind then 1 else 0
  | .buildDuration k => if k = kind then 1 else 0
  | .buildStages => 1
  | .stagesBuilt => stages
  | _ => 0

/-- What a failure counts: one if there is no conversion, and nothing if it is for an argument. -/
def failed (e : BuildError) : Counter → Nat
  | .conversionFailure => if e.kind = .noConversion then 1 else 0
  | _ => 0

/-- One more trail counts as one conversion of its length. -/
lemma along_cons (w : Trail) (trails : List Trail) (c : Counter) :
    along (w :: trails) c = along trails c + if c = .conversion w.edges.length then 1 else 0 := by
  simp [along, List.countP_cons]

/-- Conversions are counted by the number of their hops. -/
lemma along_conversion (trails : List Trail) (hops : Nat) :
    along trails (.conversion hops) = trails.countP fun w => w.edges.length = hops := by
  simp [along, eq_comm]

/-- Conversions are counted nowhere else. -/
lemma along_of_not_isConversion {c : Counter} (h : c.isConversion = false) (trails : List Trail) :
    along trails c = 0 := by
  refine List.countP_eq_zero.2 fun w _ hc => ?_
  rw [of_decide_eq_true hc] at h
  cases h

/-- A failure because of arguments counts as no failed conversion. -/
lemma failed_of_argument {e : BuildError} (h : e.kind = .argument) (c : Counter) :
    failed e c = 0 := by
  cases c with
  | conversionFailure => exact if_neg (by rw [h]; nofun)
  | _ => rfl

end Counter

/-- Applying a stage counts nothing. -/
lemma Stage.tally_of_call (st : Stage) (app : Value) (s : State) :
    ((st.factory.call (app :: st.args)).exec s).2.tally = s.tally := by
  rw [← st.apply_eq_call]
  exact st.passes_apply State.callRelation_tally.passes app s

section Moves

variable {k : RegistryId}

/-- A conversion that was made is counted under the number of its edges. -/
lemma Deed.exists_trail {d : Deed}
    (h : (d.move.run k d.input).exec d.before = (.ok d.output, d.after))
    (hd : d.move.isConversion = true) :
    ∃ w, d.Along k w ∧ d.after.tally = d.before.tally.raise (.conversion w.edges.length) 1 := by
  cases hmove : d.move with
  | call st =>
    rw [hmove] at hd
    cases hd
  | bring t =>
    rw [hmove, Move.run, Assembly.exec_get_bind] at h
    obtain ⟨w, out, s₀, s₁, hserves, hrun, -, hok⟩ | ⟨s₁, -, hfails⟩ | ⟨e, s₁, -, -, hfails⟩ :=
      exec_convert (d.before.registry k).edges d.input t d.before
    · obtain ⟨hout, hafter⟩ := Prod.mk.inj (hok.symm.trans h)
      cases hout
      refine ⟨w, ⟨t, s₀, s₁, hmove, hserves, hrun⟩, ?_⟩
      rw [← hafter]
    · cases hfails.symm.trans h
    · cases hfails.symm.trans h

/-- Trails of conversions are short. -/
lemma Deed.length_le_of_along {ds : List Deed} {trails : List Trail}
    (h : List.Forall₂ (Deed.Along k) ds trails) : ∀ w ∈ trails, w.edges.length ≤ 3 := by
  induction h with
  | nil => exact nofun
  | cons hd _ ih =>
    obtain ⟨t, s₀, s₁, -, hserves, -⟩ := hd
    exact List.forall_mem_cons.2 ⟨hserves.length_le, ih⟩

/-- The call of a stage is not counted. -/
lemma Deed.tally_eq {d : Deed} (h : (d.move.run k d.input).exec d.before = (.ok d.output, d.after))
    (hd : d.move.isConversion = false) : d.after.tally = d.before.tally := by
  cases hmove : d.move with
  | bring t =>
    rw [hmove] at hd
    cases hd
  | call st =>
    have htally := st.tally_of_call d.input d.before
    rw [hmove, Move.run] at h
    rw [h] at htally
    exact htally

/-- Moves that were made one after the other count their conversions and nothing else. -/
lemma Deeds.exists_trails {app app' : Value} {s s' : State} {ds : List Deed}
    (h : Deeds k app s ds app' s') :
    ∃ trails, List.Forall₂ (Deed.Along k) (ds.filter fun d => d.move.isConversion) trails ∧
      s'.tally.conversions = s.tally.conversions + trails.length ∧
      ∀ c, s'.tally.count c = s.tally.count c + Counter.along trails c := by
  induction h with
  | nil => exact ⟨[], .nil, rfl, fun _ => rfl⟩
  | @cons d ds app s hd _ ih =>
    obtain ⟨trails, htrails, htotal, hcount⟩ := ih
    cases hmove : d.move.isConversion with
    | false =>
      rw [Deed.tally_eq hd hmove] at htotal hcount
      refine ⟨trails, ?_, htotal, hcount⟩
      rwa [List.filter_cons_of_neg (by simp [hmove])]
    | true =>
      obtain ⟨w, hw, htally⟩ := Deed.exists_trail hd hmove
      refine ⟨w :: trails, ?_, ?_, fun c => ?_⟩
      · rw [List.filter_cons_of_pos (p := fun d : Deed => d.move.isConversion) hmove]
        exact .cons hw htrails
      · rw [htotal, htally, Tally.conversions_raise, List.length_cons]
        simp only [Counter.isConversion, if_true]
        omega
      · rw [hcount, htally, Tally.count_raise, Counter.along_cons]
        omega

/-- A move that fails is counted if there is no conversion, and not if it fails by an argument. -/
lemma Move.tally_of_failure {m : Move} {app : Value} {s s' : State} {e : BuildError}
    (h : (m.run k app).exec s = (.error e, s')) :
    (e.kind = .noConversion ∨ e.kind = .argument) ∧
      s'.tally.conversions = s.tally.conversions ∧
      ∀ c, s'.tally.count c = s.tally.count c + Counter.failed e c := by
  have hargument (hkind : e.kind = .argument) (htally : s'.tally = s.tally) :
      (e.kind = .noConversion ∨ e.kind = .argument) ∧
        s'.tally.conversions = s.tally.conversions ∧
        ∀ c, s'.tally.count c = s.tally.count c + Counter.failed e c := by
    refine ⟨.inr hkind, by rw [htally], fun c => ?_⟩
    rw [htally, Counter.failed_of_argument hkind]
    rfl
  cases m with
  | call st =>
    have htally := st.tally_of_call app s
    have hfails := st.failsByArgument_apply app
    rw [st.apply_eq_call] at hfails
    rw [run] at h
    rw [h] at htally
    exact hargument (hfails s e s' h) htally
  | bring t =>
    rw [run, Assembly.exec_get_bind] at h
    obtain ⟨w, out, s₀, s₁, -, -, -, hok⟩ | ⟨s₁, htally, hfails⟩ |
      ⟨e', s₁, hkind, htally, hfails⟩ :=
      exec_convert (s.registry k).edges app t s
    · cases hok.symm.trans h
    · obtain ⟨he, hs'⟩ := Prod.mk.inj (hfails.symm.trans h)
      cases he
      rw [← hs']
      refine ⟨.inl rfl, ?_, fun c => ?_⟩
      · rw [Tally.conversions_raise]
        rfl
      · rw [Tally.count_raise]
        cases c <;> rfl
    · cases hfails.symm.trans h
      exact hargument hkind htally

end Moves

/-! ## Builds -/

namespace Builder

/-- A build converts twice for every stage and once at the end. -/
lemma countP_moves (b : Builder) (t : Convention) :
    (b.moves t).countP Move.isConversion = 2 * b.stages.length + 1 := by
  have hstages (stages : List Stage) :
      (stages.flatMap Stage.moves).countP Move.isConversion = 2 * stages.length := by
    induction stages with
    | nil => rfl
    | cons st stages ih =>
      have hstage : st.moves.countP Move.isConversion = 2 := rfl
      rw [List.flatMap_cons, List.countP_append, ih, hstage, List.length_cons]
      omega
  rw [moves, List.countP_append, hstages, List.length_reverse]
  rfl

/-- Announcing an app counts the build. -/
lemma tally_of_announce (b : Builder) (t : Convention) (app : Value) (s : State) :
    ((b.announce t app).exec s).2.tally.conversions = s.tally.conversions ∧
      ∀ c, ((b.announce t app).exec s).2.tally.count c =
        s.tally.count c + Counter.built b.stages.length t.kind c := by
  have htally : ((b.announce t app).exec s).2.tally =
      (((s.tally.raise (.build t.kind) 1).raise (.buildDuration t.kind) 1).raise .buildStages
        1).raise .stagesBuilt b.stages.length := rfl
  rw [htally]
  constructor
  · simp [Tally.conversions_raise, Counter.isConversion]
  · intro c
    simp only [Tally.count_raise]
    cases c <;> simp [Counter.built]

/-- **The account of a build.** A build makes some of its moves, up to its end or to the first move
that fails, and every conversion among the moves that it has made went along a trail of up to three
edges and is counted under their number. If the build succeeds, these are two conversions for every
stage and one at the end, the build is counted under the kind of its target and nothing is counted
under the other one. If it fails, it leaves a failure if there was no conversion, and none if a
factory or a converter was given an argument that it does not take. -/
lemma buildValue_account (b : Builder) (t : Convention) (s : State) :
    ∃ done rest app s₁ trails, b.moves t = done.map Deed.move ++ rest ∧
      Deeds b.conversions (b.terminal s) s done app s₁ ∧
      List.Forall₂ (Deed.Along b.conversions) (done.filter fun d => d.move.isConversion) trails ∧
      (∀ out s', (b.buildValue t).exec s = (.ok out, s') → rest = [] ∧
        trails.length = 2 * b.stages.length + 1 ∧
        s'.tally.conversions = s.tally.conversions + (2 * b.stages.length + 1) ∧
        ∀ c, s'.tally.count c = s.tally.count c + Counter.along trails c +
          Counter.built b.stages.length t.kind c) ∧
      ∀ e s', (b.buildValue t).exec s = (.error e, s') →
        (∃ m rest', rest = m :: rest' ∧ (m.run b.conversions app).exec s₁ = (.error e, s')) ∧
        (e.kind = .noConversion ∨ e.kind = .argument) ∧
        s'.tally.conversions = s.tally.conversions + trails.length ∧
        ∀ c, s'.tally.count c = s.tally.count c + Counter.along trails c + Counter.failed e c := by
  obtain ⟨done, rest, app, s₁, hmoves, hdone, hend⟩ :=
    exists_deeds b.conversions (b.moves t) (b.terminal s) s
  obtain ⟨trails, htrails, htotal, hcount⟩ := hdone.exists_trails
  refine ⟨done, rest, app, s₁, trails, hmoves, hdone, htrails, ?_⟩
  have hmade := hdone.exec_makeMoves rest
  rw [← hmoves] at hmade
  rw [buildValue_eq_makeMoves, Assembly.exec_get_bind]
  obtain rfl | ⟨m, rest', e, s₂, rfl, hfails⟩ := hend
  · have hlength : trails.length = 2 * b.stages.length + 1 := by
      rw [← htrails.length_eq, ← List.countP_eq_length_filter, ← b.countP_moves t, hmoves,
        List.append_nil, List.countP_map]
      rfl
    obtain ⟨hannounce, hbuilt⟩ := b.tally_of_announce t app s₁
    rw [Assembly.exec_bind_ok hmade]
    refine ⟨?_, nofun⟩
    rintro out s' h
    cases h
    refine ⟨rfl, hlength, ?_, fun c => ?_⟩
    · rw [← hlength, ← htotal]
      exact hannounce
    · rw [← hcount]
      exact hbuilt c
  · rw [makeMoves_cons, Assembly.exec_bind_error hfails] at hmade
    obtain ⟨hkind, htotal₂, hcount₂⟩ := Move.tally_of_failure hfails
    rw [Assembly.exec_bind_error hmade]
    refine ⟨nofun, ?_⟩
    rintro _ _ ⟨⟩
    refine ⟨⟨m, rest', rfl, hfails⟩, hkind, htotal₂.trans htotal, fun c => ?_⟩
    rw [hcount₂, hcount]

end Builder

end Pipework
