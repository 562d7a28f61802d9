import Pipework.Proofs.Builder.Mounts
import Pipework.Proofs.Conversion.History

set_option autoImplicit false

/-!
# Workshops

A program has many builders at once. It makes them anew, as branches and as clones, and works on
them in any order; while it configures a branch to be mounted, it may go on working on all builders
but the one to which the branch is to be added. This file says what such a program is and what each
of its steps does.

## Main definitions

* `Workshop` — the state of the engine together with all builders, known by their places;
  `Workshop.sees` — the bag and the registry of a builder.
* `Act` — what can be done in one step.
* `Gate`, `Work.mount` — adding a branch that other steps configure.
* `Course` — a program from one workshop to another, with the stages that it has added.

## Main results

* `Act.exec_add_ok`, `Act.exec_add_error` — adding a stage.
* `Work.exec_mount_rejected`, `Work.mount_ends` — adding a branch.
-/

namespace Pipework

/-! ## Builders and their places -/

/-- A builder of a program, and the place of the builder that it is a branch or a clone of. -/
structure Member where
  builder : Builder
  parent : Option Nat

/-- A property bag and a registry, as builders work with them. -/
structure Shared where
  bag : Bag
  registry : Registry

/-- The state of the engine, and the builders in the order in which they came about. -/
structure Workshop where
  state : State
  members : List Member

namespace Workshop

/-- Nothing has been made yet. -/
def empty : Workshop := ⟨.initial, []⟩

/-- The builder at a place. -/
def builder (w : Workshop) (i : Nat) : Builder :=
  (w.members[i]?.map Member.builder).getD Builder.bareRoot

/-- One more builder. -/
def enter (w : Workshop) (m : Member) : Workshop := { w with members := w.members ++ [m] }

/-- What has become of the builder at a place. -/
def put (w : Workshop) (i : Nat) (b : Builder) : Workshop :=
  { w with members := w.members.modify i fun m => { m with builder := b } }

/-- A branch of the builder at a place. -/
def opened (w : Workshop) (i : Nat) : Workshop := w.enter ⟨(w.builder i).branch, some i⟩

/-- A clone of the builder at a place. -/
def cloned (w : Workshop) (i : Nat) : Workshop := w.enter ⟨w.builder i, some i⟩

/-- What the builder at a place sees. -/
def sees (w : Workshop) (i : Nat) : Shared :=
  ⟨w.state.bag (w.builder i).properties, w.state.registry (w.builder i).conversions⟩

end Workshop

/-! ## Computations in a workshop -/

/-- A computation in a workshop, which may fail. -/
abbrev Work := ExceptT BuildError (StateM Workshop)

/-- A computation on the state of the engine leaves the builders alone. -/
instance : MonadLift Assembly Work where
  monadLift x := ExceptT.mk fun w => ((x.exec w.state).1, { w with state := (x.exec w.state).2 })

namespace Work

variable {α β : Type}

/-- Looks at the workshop. -/
def look : Work Workshop := ExceptT.mk fun w => (.ok w, w)

/-- Changes the workshop. -/
def change (g : Workshop → Workshop) : Work Unit := ExceptT.mk fun w => (.ok (), g w)

/-- The outcome of a computation, and the workshop that it leaves. -/
def exec (x : Work α) (w : Workshop) : Except BuildError α × Workshop := StateT.run x.run w

/-- A computation on the state of the engine leaves the builders alone. -/
lemma exec_lift (x : Assembly α) (w : Workshop) :
    exec (liftM x) w = ((x.exec w.state).1, { w with state := (x.exec w.state).2 }) := rfl

/-- A sequence of two computations stops at the first failure. -/
lemma exec_bind (x : Work α) (f : α → Work β) (w : Workshop) :
    exec (x >>= f) w = match exec x w with
      | (.ok a, w') => exec (f a) w'
      | (.error e, w') => (.error e, w') := by
  change StateT.run (x.run >>= ExceptT.bindCont f) w = _
  rw [StateT.run_bind]
  unfold exec
  rcases StateT.run x.run w with ⟨_ | _, w'⟩ <;> rfl

/-- After a success the sequence goes on. -/
lemma exec_bind_ok {x : Work α} {f : α → Work β} {w w' : Workshop} {a : α}
    (h : exec x w = (.ok a, w')) : exec (x >>= f) w = exec (f a) w' := by
  rw [exec_bind, h]

/-- After a failure the sequence stops. -/
lemma exec_bind_error {x : Work α} {f : α → Work β} {w w' : Workshop} {e : BuildError}
    (h : exec x w = (.error e, w')) : exec (x >>= f) w = (.error e, w') := by
  rw [exec_bind, h]

/-- After a look at the workshop the sequence goes on with it. -/
lemma exec_look_bind (f : Workshop → Work β) (w : Workshop) :
    exec (look >>= f) w = exec (f w) w := rfl

/-- A change of the workshop succeeds. -/
lemma exec_change (g : Workshop → Workshop) (w : Workshop) :
    exec (change g) w = (.ok (), g w) := rfl

end Work

/-! ## Steps -/

/-- A stage to be added: as a value with extra arguments, as actions around the next app, or as a
handler. -/
inductive Addition where
  | stage (v : Value) (args : Args)
  | middleware (name : String) (acts : List Action)
  | handler (a : App)

/-- Adds a stage to a builder. -/
def Addition.run (b : Builder) : Addition → Assembly Builder
  | stage v args => b.useStage v args
  | middleware name acts => b.useMiddleware name acts
  | handler a => b.run a

/-- The stage that is to be added, if there is one. -/
def Addition.resolve : Addition → Except BuildError Stage
  | stage v args => Stage.resolve v args
  | middleware name acts => Stage.resolve (.callable (.layer ⟨name, some acts⟩)) []
  | handler a => Stage.resolve (.callable (.handler a)) []

/-- What can be written through a builder into its bag or its registry. -/
inductive Write where
  | set (key : String) (v : Value)
  | remove (key : String)
  | register (v : Value)

/-- Writes through a builder. -/
def Write.run (b : Builder) : Write → Assembly Unit
  | set key v => discard (Engine.setProperty b.properties key v)
  | remove key => discard (Engine.removeProperty b.properties key)
  | register v => Assembly.register b.conversions v

/-- A step that changes no list of stages. -/
inductive Call where
  | write (i : Nat) (x : Write)
  /-- Registers a value through the callable that the bag of a builder holds, if it holds one. -/
  | registerByBag (i : Nat) (v : Value)
  /-- Converts a value, with the registry of a builder or with a new one. -/
  | convert (i : Nat) (r : Session.RegistryChoice) (v : Value) (t : Convention)
  | buildValue (i : Nat) (t : Convention)
  | build (i : Nat) (type : Shape)
  /-- Calls a stage with a next app, outside of any build. -/
  | apply (st : Stage) (next : Value)
  | invoke (v : Value) (args : Args)
  | construct (t : ComponentType) (args : Args)
  | eval (e : Expr)
  | render (v : Value)
  | number (n : Num) (x : UInt32)
  /-- Stores a value in a variable, if it has a name. -/
  | store (name : Option String) (v : Value)
  /-- Takes the lines out of the call log. -/
  | takeCalls
  /-- Takes the events out of the log. -/
  | takeEvents

/-- Takes a step that changes no list of stages. -/
def Call.run (w : Workshop) : Call → Assembly Unit
  | write i x => x.run (w.builder i)
  | registerByBag i v => discard (Session.registerByBag (w.builder i).properties v)
  | convert i r v t => do
    let edges ← Session.chosenEdges (w.builder i).conversions r
    discard (Pipework.convert edges v t)
  | buildValue i t => discard ((w.builder i).buildValue t)
  | build i type => discard ((w.builder i).build type)
  | apply st next => discard (st.apply next)
  | invoke v args => discard (v.invoke args)
  | construct t args => discard (t.construct args)
  | eval e => discard e.eval
  | render v => discard v.render
  | number n x => discard (n.eval x)
  | store name v => Session.store name v
  | takeCalls => modify fun s => { s with calls := [] }
  | takeEvents => modify fun s => { s with events := [] }

/-- What can be done in one step. -/
inductive Act where
  | make
  | branch (i : Nat)
  | clone (i : Nat)
  | add (i : Nat) (x : Addition)
  | call (x : Call)

namespace Act

/-- Takes a step. -/
def run : Act → Work Unit
  | make => do
    let b ← (Builder.make : Assembly Builder)
    Work.change fun w => w.enter ⟨b, none⟩
  | branch i => Work.change fun w => w.opened i
  | clone i => Work.change fun w => w.cloned i
  | add i x => do
    let w ← Work.look
    let b ← x.run (w.builder i)
    Work.change fun w => w.put i b
  | call x => do
    let w ← Work.look
    x.run w

/-- The places of the builders that a step works on. -/
def places : Act → List Nat
  | make => []
  | branch i => [i]
  | clone i => [i]
  | add i _ => [i]
  | call (.write i _) => [i]
  | call (.registerByBag i _) => [i]
  | call (.convert i _ _ _) => [i]
  | call (.buildValue i _) => [i]
  | call (.build i _) => [i]
  | call _ => []

/-- The ways in which the stages that a step adds were written. -/
def added : Act → List StageKind
  | add _ x =>
    match x.resolve with
    | .ok st => [st.kind]
    | .error _ => []
  | _ => []

end Act

/-! ## Adding branches -/

/-- What lets requests into a branch. -/
inductive Gate where
  | path (p : String)
  | test (c : Cond)

namespace Gate

/-- Checks the path of a branch. -/
def check : Gate → Except BuildError Unit
  | path p => Builder.checkMount p
  | test _ => .ok ()

/-- Adds a branch to a builder. -/
def add {m : Type → Type} [Monad m] [MonadLiftT Assembly m] (b : Builder)
    (configure : Builder → m Builder) : Gate → m Builder
  | path p => b.map p configure
  | test c => b.mapWhen c configure

/-- The mount of the app that a branch has built. -/
def mount (branch : App) : Gate → Mount
  | path p => .path p branch
  | test c => .test c branch

/-- How the stage of a branch is written. -/
def kind : Gate → StageKind
  | path _ => .constructibleComponent
  | test _ => .callableFactory

end Gate

namespace Work

/-- Configures a branch of the builder at place `i`: the branch is one more builder while `conf`
runs, and what has become of it then is the configured branch. -/
def configure (i : Nat) (conf : Work Unit) (branch : Builder) : Work Builder := do
  let before ← look
  change fun w => w.enter ⟨branch, some i⟩
  conf
  let after ← look
  pure (after.builder before.members.length)

/-- Adds a branch to the builder at place `i`. The branch is configured by `conf`. -/
def mount (i : Nat) (g : Gate) (conf : Work Unit) : Work Unit := do
  let w ← look
  let b ← g.add (w.builder i) (configure i conf)
  change fun w => w.put i b

end Work

/-- How adding a branch under a path that is not rejected ends. -/
inductive Work.MountEnds (i : Nat) (g : Gate) (conf : Work Unit) (w : Workshop) :
    Except BuildError Unit × Workshop → Prop
  /-- The configuration fails. -/
  | unconfigured {e : BuildError} {w₁ : Workshop}
      (hconf : conf.exec (w.opened i) = (.error e, w₁)) : MountEnds i g conf w (.error e, w₁)
  /-- The branch does not build. -/
  | unbuilt {e : BuildError} {w₁ : Workshop} {s : State}
      (hconf : conf.exec (w.opened i) = (.ok (), w₁))
      (hbuild : (w₁.builder w.members.length).buildApp.exec w₁.state = (.error e, s)) :
      MountEnds i g conf w (.error e, { w₁ with state := s })
  /-- The app that the branch has built is mounted in the builder as that was before. -/
  | added {w₁ : Workshop} {app : App} {s : State} {events : List Event}
      (hconf : conf.exec (w.opened i) = (.ok (), w₁))
      (hbuild : (w₁.builder w.members.length).buildApp.exec w₁.state = (.ok app, s)) :
      MountEnds i g conf w (.ok (), ({ w₁ with state := { s with
        events := events
        tally := s.tally.raise (.stage g.kind) 1 } } : Workshop).put i
          { w.builder i with stages := (w.builder i).stages ++ [(g.mount app).stage] })

/-- A program leads from one workshop to another. It works on all builders but those at the places
`busy`, and adds stages that are written in the ways that are listed. -/
inductive Course : List Nat → Workshop → List StageKind → Workshop → Prop
  | start (busy : List Nat) (w : Workshop) : Course busy w [] w
  | act {busy : List Nat} {w w' : Workshop} {l : List StageKind} (h : Course busy w l w') (a : Act)
      (ha : ∀ i ∈ a.places, i < w'.members.length ∧ i ∉ busy) :
      Course busy w (l ++ a.added) (a.run.exec w').2
  /-- A branch under a path that is rejected is not configured. -/
  | reject {busy : List Nat} {w w' : Workshop} {l : List StageKind} (h : Course busy w l w')
      {i : Nat} (hi : i < w'.members.length ∧ i ∉ busy) {g : Gate} {e : BuildError}
      (hg : g.check = .error e) (conf : Work Unit) :
      Course busy w l ((Work.mount i g conf).exec w').2
  /-- While a branch is being configured, the program does not work on the builder that it is to be
  added to. -/
  | mount {busy : List Nat} {w w' : Workshop} {l l' : List StageKind} (h : Course busy w l w')
      {i : Nat} (hi : i < w'.members.length ∧ i ∉ busy) {g : Gate} (hg : g.check = .ok ())
      {conf : Work Unit}
      (hconf : Course (i :: busy) (w'.opened i) l' (conf.exec (w'.opened i)).2) :
      Course busy w
        (l ++ l' ++ match ((Work.mount i g conf).exec w').1 with
          | .ok _ => [g.kind]
          | .error _ => [])
        ((Work.mount i g conf).exec w').2

/-! ## What the steps do -/

namespace Workshop

variable {w : Workshop} {i j : Nat}

/-- The builder at a place is that of the member there. -/
lemma builder_of_getElem? {m : Member} (h : w.members[i]? = some m) : w.builder i = m.builder := by
  rw [builder, h]
  rfl

/-- One more builder leaves the members before it alone. -/
lemma getElem?_enter_lt {m : Member} (h : i < w.members.length) :
    (w.enter m).members[i]? = w.members[i]? := List.getElem?_append_left h

/-- One more builder stands behind all others. -/
lemma getElem?_enter_self (w : Workshop) (m : Member) :
    (w.enter m).members[w.members.length]? = some m := List.getElem?_concat_length

/-- There is one builder more. -/
lemma length_enter (w : Workshop) (m : Member) :
    (w.enter m).members.length = w.members.length + 1 := List.length_append

/-- One more builder leaves the builders before it alone. -/
lemma builder_enter_lt (m : Member) (h : i < w.members.length) :
    (w.enter m).builder i = w.builder i := by
  rw [builder, builder, getElem?_enter_lt h]

/-- One more builder is found behind all others. -/
lemma builder_enter_self (w : Workshop) (m : Member) :
    (w.enter m).builder w.members.length = m.builder :=
  builder_of_getElem? (getElem?_enter_self w m)

/-- What becomes of one builder leaves the members at other places alone. -/
lemma getElem?_put_ne {b : Builder} (h : i ≠ j) : (w.put i b).members[j]? = w.members[j]? :=
  List.getElem?_modify_ne _ _ h

/-- What has become of a builder stands at its place, with the same parent. -/
lemma getElem?_put_self {m : Member} (b : Builder) (h : w.members[i]? = some m) :
    (w.put i b).members[i]? = some { m with builder := b } := by
  rw [put, List.getElem?_modify_eq, h]
  rfl

/-- What has become of a builder is found at its place. -/
lemma builder_put_self (b : Builder) (h : i < w.members.length) : (w.put i b).builder i = b :=
  builder_of_getElem? (getElem?_put_self b (List.getElem?_eq_getElem h))

/-- A builder that stays as it is. -/
lemma put_of_getElem? {m : Member} (h : w.members[i]? = some m) : w.put i m.builder = w := by
  have hmembers : (w.put i m.builder).members = w.members := by
    refine List.ext_getElem? fun j => ?_
    by_cases hij : i = j
    · rw [← hij, getElem?_put_self _ h, h]
    · exact getElem?_put_ne hij
  exact congrArg (Workshop.mk w.state) hmembers

end Workshop

namespace Addition

variable (b : Builder) {st : Stage}

/-- A stage that is found is added, reported and counted. -/
lemma exec_run_ok {x : Addition} (h : x.resolve = .ok st) (s : State) :
    ∃ events, (x.run b).exec s = (.ok { b with stages := b.stages ++ [st] }, { s with
      events := events
      tally := s.tally.raise (.stage st.kind) 1 }) := by
  cases x with
  | stage v args => exact ⟨_, b.exec_useStage_ok h s⟩
  | middleware name acts =>
    have h : Stage.resolve (.callable (.layer ⟨name, some acts⟩)) [] = .ok st := h
    rw [run, Builder.useMiddleware, Assembly.exec_lift_bind]
    exact ⟨_, b.exec_useStage_ok h _⟩
  | handler a =>
    have h : Stage.resolve (.callable (.handler a)) [] = .ok st := h
    exact ⟨_, b.exec_useStage_ok h s⟩

/-- If no stage is found, nothing happens. -/
lemma exec_run_error {x : Addition} {e : BuildError} (h : x.resolve = .error e) (s : State) :
    (x.run b).exec s = (.error e, s) := by
  cases x with
  | stage v args => exact b.exec_useStage_error h s
  | middleware name acts => cases h
  | handler a => cases h

end Addition

namespace Act

variable {w : Workshop} {i : Nat} {x : Addition}

/-- A call changes the state of the engine only. -/
lemma exec_call (x : Call) (w : Workshop) :
    (Act.call x).run.exec w =
      (((x.run w).exec w.state).1, { w with state := ((x.run w).exec w.state).2 }) := rfl

/-- A builder that is made anew comes behind all others. -/
lemma exec_make (w : Workshop) :
    make.run.exec w = (.ok (), { w with state := (Builder.make.exec w.state).2 }.enter
      ⟨(Builder.make.exec w.state).1, none⟩) := rfl

/-- A stage that is found is added to the builder, and to no other one. -/
lemma exec_add_ok {st : Stage} (h : x.resolve = .ok st) (i : Nat) (w : Workshop) :
    ∃ events, (add i x).run.exec w = (.ok (), ({ w with state := { w.state with
      events := events
      tally := w.state.tally.raise (.stage st.kind) 1 } } : Workshop).put i
        { w.builder i with stages := (w.builder i).stages ++ [st] }) := by
  obtain ⟨events, hrun⟩ := Addition.exec_run_ok (w.builder i) h w.state
  refine ⟨events, ?_⟩
  rw [run, Work.exec_look_bind, Work.exec_bind_ok (Work.exec_lift _ w |>.trans (by rw [hrun]))]
  rfl

/-- If no stage is found, nothing happens. -/
lemma exec_add_error {e : BuildError} (h : x.resolve = .error e) (i : Nat) (w : Workshop) :
    (add i x).run.exec w = (.error e, w) := by
  have hrun := Addition.exec_run_error (w.builder i) h w.state
  rw [run, Work.exec_look_bind, Work.exec_bind_error (Work.exec_lift _ w |>.trans (by rw [hrun]))]

end Act

/-- Two builders that were made anew, without stages. -/
def Workshop.two : Workshop := (Act.make.run.exec (Act.make.run.exec .empty).2).2

/-- The third builder gets a handler. -/
def Work.handle : Work Unit := (Act.add 2 (.handler .notFound)).run

/-- A program that gives a branch of the second builder a handler. -/
lemma Workshop.course_handle {busy : List Nat} (hbusy : 2 ∉ busy) :
    Course busy (two.opened 1) ([] ++ [.callableFactory]) (Work.handle.exec (two.opened 1)).2 := by
  refine .act (.start _ _) (.add 2 (.handler .notFound)) fun i hi => ?_
  obtain rfl := List.mem_singleton.1 hi
  exact ⟨by decide, hbusy⟩

namespace Gate

/-- Adds a branch that has been configured. -/
def plant (b branch : Builder) : Gate → Assembly Builder
  | path p => b.mount p branch
  | test c => b.mountWhen c branch

/-- Adding a branch is configuring it and adding what has become of it. -/
lemma add_eq {g : Gate} (hg : g.check = .ok ()) (b : Builder) (configure : Builder → Work Builder) :
    g.add b configure = configure b.branch >>= fun branch => liftM (g.plant b branch) := by
  cases g with
  | path p =>
    have hg : Builder.checkMount p = .ok () := hg
    rw [add, Builder.map, hg]
    rfl
  | test c => rfl

variable (g : Gate) (b branch : Builder) {s s' : State}

/-- A branch that is not built is not added. -/
lemma exec_plant_error {e : BuildError} (h : branch.buildApp.exec s = (.error e, s')) :
    (g.plant b branch).exec s = (.error e, s') := by
  cases g with
  | path p => exact Assembly.exec_bind_error h
  | test c => exact Assembly.exec_bind_error h

/-- A branch that is built is added as a stage. -/
lemma exec_plant_ok {app : App} (h : branch.buildApp.exec s = (.ok app, s')) :
    ∃ events, (g.plant b branch).exec s =
      (.ok { b with stages := b.stages ++ [(g.mount app).stage] }, { s' with
        events := events
        tally := s'.tally.raise (.stage g.kind) 1 }) := by
  cases g with
  | path p => exact ⟨_, (Assembly.exec_bind_ok h).trans (b.exec_useStage_ok rfl s')⟩
  | test c => exact ⟨_, (Assembly.exec_bind_ok h).trans (b.exec_useStage_ok rfl s')⟩

end Gate

namespace Work

variable {g : Gate} {e : BuildError} (i : Nat) (conf : Work Unit) {w w₁ : Workshop}

/-- A branch under a path that is rejected is neither configured nor added. -/
lemma exec_mount_rejected (hg : g.check = .error e) (w : Workshop) :
    (mount i g conf).exec w = (.error e, w) := by
  cases g with
  | test c => cases hg
  | path p =>
    have hg : Builder.checkMount p = .error e := hg
    have hadd : exec (Gate.add (w.builder i) (configure i conf) (.path p)) w = (.error e, w) := by
      rw [Gate.add, Builder.map, hg]
      rfl
    rw [mount, exec_look_bind, exec_bind_error hadd]

variable (hg : g.check = .ok ()) {i conf}
include hg

/-- What is left to do when a branch has been configured. -/
lemma exec_mount_configured (hconf : conf.exec (w.opened i) = (.ok (), w₁)) :
    (mount i g conf).exec w =
      (do
        let b ← (g.plant (w.builder i) (w₁.builder w.members.length) : Assembly Builder)
        change fun w => w.put i b : Work Unit).exec w₁ := by
  have hconfigure : exec (configure i conf (w.builder i).branch) w =
      (.ok (w₁.builder w.members.length), w₁) := by
    rw [configure, exec_look_bind, exec_bind_ok (exec_change _ w)]
    exact exec_bind_ok hconf
  rw [mount, exec_look_bind, Gate.add_eq hg, bind_assoc, exec_bind_ok hconfigure]

/-- If the configuration fails, nothing else happens. -/
lemma exec_mount_unconfigured (hconf : conf.exec (w.opened i) = (.error e, w₁)) :
    (mount i g conf).exec w = (.error e, w₁) := by
  have hconfigure : exec (configure i conf (w.builder i).branch) w = (.error e, w₁) := by
    rw [configure, exec_look_bind, exec_bind_ok (exec_change _ w)]
    exact exec_bind_error hconf
  rw [mount, exec_look_bind, Gate.add_eq hg, bind_assoc, exec_bind_error hconfigure]

/-- Adding a branch ends in one of three ways: the configuration fails, the branch does not build,
or what it builds is mounted. -/
lemma mount_ends (i : Nat) (conf : Work Unit) (w : Workshop) :
    MountEnds i g conf w ((mount i g conf).exec w) := by
  rcases hconf : conf.exec (w.opened i) with ⟨e | _, w₁⟩
  · rw [exec_mount_unconfigured hg hconf]
    exact .unconfigured hconf
  · rw [exec_mount_configured hg hconf]
    rcases hbuild : (w₁.builder w.members.length).buildApp.exec w₁.state with ⟨e | app, s⟩
    · have hplant := g.exec_plant_error (w.builder i) _ hbuild
      rw [exec_bind_error ((exec_lift _ w₁).trans (by rw [hplant]))]
      exact .unbuilt hconf hbuild
    · obtain ⟨events, hplant⟩ := g.exec_plant_ok (w.builder i) _ hbuild
      rw [exec_bind_ok ((exec_lift _ w₁).trans (by rw [hplant])), exec_change]
      exact .added hconf hbuild

end Work

end Pipework
