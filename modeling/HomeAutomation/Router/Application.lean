import HomeAutomation.Router.ConfigParser
import HomeAutomation.Router.Lifecycle

/-!
# The router service

`Application::run` starts a router, runs the event loop and stops the router again.
Signals arrive in the loop: `SIGTERM` and `SIGINT` leave it, and `SIGHUP` stops the
router and starts a new one with a newly read configuration.  What the outside world
decides (the file, the listen and the connect calls, the signals and what the router's
sockets do) is the run's events.

A method of a null router is undefined, and the destructors check that what they destroy
is stopped.  A step that meets a breach of this is recorded, and nothing follows it; a
step that ends the program for another reason is not a step.

`start` leaves by an exception when the file is bad or a listen call fails.  The caller
then goes the way of an ordinary end: `on_signal` leaves the loop and `run` calls
`stop`, which uses the router without looking whether there is one, and stops nothing
of a router that never came to be started.

## Main definitions

* `Application`, `start`, `stop`, `onSignal`, `run`, `leave` — the class.
* `Application.step` — one event of a run.
* `Sound` — no breach so far, and none when the loop is left.
* `Admissible` — the condition on the events.

## Main results

* `stop_serving`, `start_cases` — what the two functions do.
* `Invariant.decided` — every event keeps the invariant or is not admissible.
* `always_sound_iff` — the runs without a breach.

## References

`router/Application.cpp`, `router/Router.cpp`.
-/

namespace HomeAutomation
namespace Router

open SocketConnection

/-! ### The application -/

/-- What the outside world decides about a call of `start`: what reading the file
gives, and what each listen and each connect call does. -/
structure Inputs where
  file : Except Exception Values
  listens : ℕ → Bool
  connects : ℕ → Bool

/-- The configuration that `read_config` makes of the file. -/
def Inputs.config (inputs : Inputs) : Except Exception Config := inputs.file >>= parseConfig

/-- For the configuration that is read, the listen calls all succeed or the first one
fails. -/
def Inputs.Whole (inputs : Inputs) : Prop :=
  ∀ config, inputs.config = .ok config → State.ListensWhole config inputs.listens

theorem Inputs.whole_iff {inputs : Inputs} {config : Config} (h : inputs.config = .ok config) :
    inputs.Whole ↔ State.ListensWhole config inputs.listens := by
  refine ⟨fun hwhole => hwhole config h, fun hlistens config' h' => ?_⟩
  rw [h] at h'
  cases h'
  exact hlistens

/-- What decides whether `run` comes to `start`. -/
structure Launch where
  validArguments : Bool
  printHelp : Bool
  daemonize : Bool
  /-- The `daemon` call succeeds. -/
  daemonSucceeds : Bool

/-- `run` comes to `start`. -/
def Launch.starts (l : Launch) : Bool :=
  l.validArguments && !l.printHelp && (!l.daemonize || l.daemonSucceeds)

/-- Where `run` is. -/
inductive Phase
  | created
  | looping
  /-- `unloop` has been called; the loop still finishes its round. -/
  | unlooped
  | returned (code : ℕ)
  deriving DecidableEq

/-- The loop is running. -/
def Phase.inLoop : Phase → Bool
  | .looping => true
  | .unlooped => true
  | _ => false

inductive Signal
  | hup
  | term
  | int
  deriving DecidableEq

/-- The members of `Application` that a run changes: the router with its configuration,
and whether the signal listeners are started. -/
structure Application where
  router : Option (Config × State)
  signals : Bool
  phase : Phase
  breach : Option Breach

namespace Application

/-- The application as it is constructed. -/
def create : Application := ⟨none, false, .created, none⟩

/-- `start`: the application, and whether it returns true.  An exception leaves the
router as far as it came. -/
def start (a : Application) (inputs : Inputs) : Except Failure (Application × Bool) :=
  if a.router.isSome then .error (.crash .assertion)
  else
    match inputs.config with
    | .error _ => .ok (a, false)
    | .ok config =>
      match State.create config with
      | .error f => .error (.crash f)
      | .ok s =>
        match s.start inputs.listens inputs.connects with
        -- a record that still has a server would destroy it
        | .error _ => .error (.breach .startedServer)
        | .ok (s, some _) => .ok ({ a with router := some (config, s) }, false)
        | .ok (s, none) => .ok ({ a with router := some (config, s), signals := true }, true)

/-- `stop`. -/
def stop (a : Application) : Except Failure Application :=
  match a.router with
  | none => .error (.breach .nullRouter)
  | some (config, s) => do
    let s ← s.handleChecked config .stop
    s.destroy
    return { a with router := none, signals := false }

/-- The destructor, after `run` has returned. -/
def destroy (a : Application) (code : ℕ) : Except Failure Application :=
  match a.router with
  | none => .ok { a with phase := .returned code }
  | some (_, s) => do
    s.destroy
    return { a with router := none, phase := .returned code }

/-- `on_signal`. -/
def onSignal (a : Application) (signal : Signal) (inputs : Inputs) :
    Except Failure Application :=
  match signal with
  | .hup => do
    let a ← a.stop
    let (a, started) ← a.start inputs
    if started then return a else return { a with phase := .unlooped }
  | _ => .ok { a with phase := .unlooped }

/-- `run` up to the event loop. -/
def run (a : Application) (launch : Launch) (inputs : Inputs) : Except Failure Application :=
  if !launch.validArguments || launch.printHelp then
    .ok { a with phase := .returned (if launch.validArguments then 0 else 1) }
  else if launch.daemonize && !launch.daemonSucceeds then .ok { a with phase := .returned 2 }
  else do
    let (a, started) ← a.start inputs
    if started then return { a with phase := .looping } else a.destroy 2

/-- `run` behind the event loop. -/
def leave (a : Application) : Except Failure Application := do
  let a ← a.stop
  a.destroy 0

/-- What happens to the application. -/
inductive Event
  | run (launch : Launch) (inputs : Inputs)
  | signal (signal : Signal) (inputs : Inputs)
  /-- The loop runs a handler of the router. -/
  | router (e : Router.Event)
  /-- The loop has come to its end. -/
  | leave

/-- The handler of each event; one that is not due does nothing. -/
def handle (a : Application) : Event → Except Failure Application
  | .run launch inputs => if a.phase = .created then a.run launch inputs else .ok a
  | .signal signal inputs => if a.signals then a.onSignal signal inputs else .ok a
  | .router e =>
    match a.router with
    | none => .ok a
    | some (config, s) =>
      if a.phase.inLoop && !e.isCall then do
        let s ← s.handleChecked config e
        return { a with router := some (config, s) }
      else .ok a
  | .leave => if a.phase = .unlooped then a.leave else .ok a

/-- **One event of a run.** -/
def step (a : Application) (e : Event) : Option Application :=
  if a.breach.isSome then none
  else
    match a.handle e with
    | .ok a' => some a'
    | .error (.breach b) => some { a with breach := some b }
    | .error (.crash _) => none

/-- **No breach so far, and none when the loop is left.** -/
def Sound (a : Application) : Prop :=
  a.breach = none ∧ ∀ a', a.step .leave = some a' → a'.breach = none

/-! ### Stopping and starting -/

/-- The application without a router. -/
def stopped (a : Application) : Application := { a with router := none, signals := false }

theorem stop_idle {a : Application} {config : Config} {s : State}
    (hrouter : a.router = some (config, s)) (hs : s.Idle) : a.stop = .ok a.stopped := by
  have hchecked : s.handleChecked config .stop = .ok s := by
    have hrun : s.handleChecked config .stop = s.stop.mapError .crash :=
      State.handleChecked_eq hs.allSubscribed nofun
    rw [hrun, hs.stop]
    rfl
  simp only [stop, hrouter, hchecked, hs.destroy, ok_bind]
  rfl

/-- **What `stop` does with a router that serves**: it stops and destroys it, unless a
network is not connected. -/
theorem stop_serving {a : Application} {config : Config} {s : State}
    (hrouter : a.router = some (config, s)) (hs : s.Serving) :
    (s.SomeNetworkDown ∧ a.stop = .error (.crash .nullDereference)) ∨
      (¬ s.SomeNetworkDown ∧ a.stop = .ok a.stopped) := by
  have hchecked : s.handleChecked config .stop = s.stop.mapError .crash :=
    State.handleChecked_eq hs.subscribed nofun
  by_cases hdown : s.SomeNetworkDown
  · rw [hs.stop_of_down hdown] at hchecked
    exact Or.inl ⟨hdown, by simp only [stop, hrouter, hchecked]; rfl⟩
  · obtain ⟨s', hstop, hs'⟩ := hs.stop_of_up hdown
    rw [hstop] at hchecked
    have hok : s.handleChecked config .stop = .ok s' := hchecked
    refine Or.inr ⟨hdown, ?_⟩
    simp only [stop, hrouter, hok, hs'.destroy, ok_bind]
    rfl

/-- **What `start` does.** -/
theorem start_cases {a : Application} (ha : a.router = none) (inputs : Inputs) :
    (a.start inputs = .ok (a, false) ∧ ∃ e, inputs.config = .error e) ∨
    ∃ config, inputs.config = .ok config ∧
      ((inputs.Whole ∧ a.start inputs = .error (.crash .assertion)) ∨
        ∃ s, (inputs.Whole ∧ s.Serving ∧
            a.start inputs = .ok ({ a with router := some (config, s), signals := true }, true)) ∨
          (inputs.Whole ∧ s.Idle ∧
            a.start inputs = .ok ({ a with router := some (config, s) }, false)) ∨
          (¬ inputs.Whole ∧ s.Halfway ∧
            a.start inputs = .ok ({ a with router := some (config, s) }, false))) := by
  have hnone : a.router.isSome = false := by rw [ha]; rfl
  cases hconfig : inputs.config with
  | error e => exact Or.inl ⟨by simp [start, hnone, hconfig], e, rfl⟩
  | ok config =>
    obtain ⟨values, -, hparse⟩ := bind_eq_ok_iff.mp hconfig
    -- the parser accepts no file without networks
    have hnetworks : config.getNetworks ≠ [] := by
      rw [Config.getNetworks, ne_eq, List.map_eq_nil_iff]
      exact (parseNetworks_eq_ok (parts_of_parseConfig hparse).1).2
    refine Or.inr ⟨config, rfl, ?_⟩
    -- without bindings the constructor of the router stops at its check
    by_cases hbindings : config.bindings = []
    · have hcreate : State.create config = .error .assertion := by
        rw [State.create, hbindings]
        rfl
      refine Or.inl ⟨(Inputs.whole_iff hconfig).mpr fun _ i hi => ?_,
        by simp [start, hnone, hconfig, hcreate]⟩
      rw [hbindings] at hi
      cases hi
    · obtain ⟨s₀, hcreate, hidle, hrecords⟩ := State.exists_create hnetworks hbindings
      obtain ⟨s, thrown, hstart, hcases⟩ :=
        State.start_fresh hidle hrecords hbindings inputs.listens inputs.connects
      refine Or.inr ⟨s, ?_⟩
      -- an exception of `start` leaves the router behind, without the listeners
      have hthrown : thrown.isSome = true →
          a.start inputs = .ok ({ a with router := some (config, s) }, false) := by
        intro hsome
        obtain ⟨e, rfl⟩ := Option.isSome_iff_exists.mp hsome
        simp [start, hnone, hconfig, hcreate, hstart]
      rcases hcases with ⟨rfl, hserving, hlistens⟩ | ⟨hsome, hs, hlisten⟩ | ⟨hsome, hs, hpartly⟩
      · exact Or.inl ⟨(Inputs.whole_iff hconfig).mpr fun _ => hlistens, hserving,
          by simp [start, hnone, hconfig, hcreate, hstart]⟩
      · refine Or.inr (Or.inl ⟨(Inputs.whole_iff hconfig).mpr fun h => ?_, hs, hthrown hsome⟩)
        rw [hlisten] at h
        cases h
      · exact Or.inr (Or.inr ⟨fun h => hpartly ((Inputs.whole_iff hconfig).mp h), hs,
          hthrown hsome⟩)

/-! ### The invariant -/

/-- **What holds between two events**: there is no router outside of the loop, and in the
loop it serves; only when the first listen call of a restart has failed is the loop
left with a router that was not started. -/
inductive Invariant : Application → Prop
  | outside (phase : Phase) (h : phase.inLoop = false) : Invariant ⟨none, false, phase, none⟩
  | serving (config : Config) (s : State) (signals : Bool) (phase : Phase)
      (h : phase.inLoop = true) (hs : s.Serving) :
      Invariant ⟨some (config, s), signals, phase, none⟩
  | idle (config : Config) (s : State) (hs : s.Idle) :
      Invariant ⟨some (config, s), false, .unlooped, none⟩

theorem Invariant.breach {a : Application} (ha : a.Invariant) : a.breach = none := by
  cases ha <;> rfl

theorem step_eq {a : Application} (ha : a.breach = none) (e : Event) : a.step e =
    match a.handle e with
    | .ok a' => some a'
    | .error (.breach b) => some { a with breach := some b }
    | .error (.crash _) => none := by
  rw [step, ha]
  rfl

/-- Leaving the loop keeps the invariant. -/
theorem Invariant.leave {a a' : Application} (ha : a.Invariant) (h : a.step .leave = some a') :
    a'.Invariant := by
  rw [step_eq ha.breach] at h
  -- behind `stop` the application is without a router
  have hleave : a.stop = .ok a.stopped → a.leave
      = .ok { a.stopped with phase := .returned 0 } := by
    intro hstop
    rw [Application.leave, hstop]
    rfl
  cases ha with
  | outside phase hphase =>
    -- outside of the loop there is nothing to leave
    have hnot : phase ≠ .unlooped := by
      rintro rfl
      cases hphase
    simp only [handle, hnot, if_false] at h
    cases h
    exact .outside phase hphase
  | serving config s signals phase hphase hs =>
    by_cases hun : phase = .unlooped
    · subst hun
      -- `stop` of a serving router crashes, or takes the router away
      have hcases := stop_serving (a := ⟨some (config, s), signals, .unlooped, none⟩) rfl hs
      rcases hcases with ⟨-, hstop⟩ | ⟨-, hstop⟩
      · simp only [handle, if_true, Application.leave, hstop, error_bind] at h
        cases h
      · simp only [handle, if_true, hleave hstop] at h
        cases h
        exact .outside _ rfl
    · simp only [handle, hun, if_false] at h
      cases h
      exact .serving config s signals phase hphase hs
  | idle config s hs =>
    simp only [handle, if_true, hleave (stop_idle rfl hs)] at h
    cases h
    exact .outside _ rfl

theorem Invariant.sound {a : Application} (ha : a.Invariant) : a.Sound :=
  ⟨ha.breach, fun _ h => (ha.leave h).breach⟩

/-! ### The condition -/

/-- **The condition on an event.**  A start reads a file whose bindings can all be
listened on, or whose first binding cannot, and a restart reads a good file; a restart
that the router does not survive anyway is excepted.  A client is accepted under a
number that is free. -/
def Admissible (a : Application) : Event → Prop
  | .run launch inputs => a.phase = .created → launch.starts = true → inputs.Whole
  | .signal .hup inputs => a.signals = true →
    (∃ config s, a.router = some (config, s) ∧ s.SomeNetworkDown) ∨
      ((∃ config, inputs.config = .ok config) ∧ inputs.Whole)
  | .router .accept => a.phase.inLoop = true →
    ∀ config s, a.router = some (config, s) → s.started = true → ¬ s.NumberTaken
  | _ => True

/-- An event of the router meets the condition unless it is the acceptance of a client. -/
theorem admissible_router {a : Application} {e : Router.Event}
    (h : e = .accept → a.Admissible (.router .accept)) : a.Admissible (.router e) := by
  cases e with
  | accept => exact h rfl
  | _ => trivial

/-- An event either meets the condition and keeps the invariant, or it does not and
the run is no longer sound. -/
def Decided (a : Application) (e : Event) : Prop :=
  (a.Admissible e ∧ ∀ a', a.step e = some a' → a'.Invariant) ∨
    (¬ a.Admissible e ∧ ∃ a', a.step e = some a' ∧ ¬ a'.Sound)

/-- An event that is not due, or has nothing to do, keeps the invariant. -/
theorem Decided.of_handle {a a' : Application} {e : Event} (ha : a.Invariant)
    (hadmissible : a.Admissible e) (h : a.handle e = .ok a') (ha' : a'.Invariant) :
    a.Decided e := by
  refine Or.inl ⟨hadmissible, fun b hb => ?_⟩
  rw [step_eq ha.breach, h] at hb
  cases hb
  exact ha'

/-- Behind a loop without a router `stop` is called on null. -/
theorem not_sound_null : ¬ Sound ⟨none, false, .unlooped, none⟩ := by
  intro h
  cases h.2 _ rfl

/-- Behind a loop with a router that has come halfway its servers are destroyed. -/
theorem not_sound_halfway (config : Config) {s : State} (hs : s.Halfway) :
    ¬ Sound ⟨some (config, s), false, .unlooped, none⟩ := by
  have hchecked : s.handleChecked config .stop = .ok s := by
    simp [State.handleChecked, State.destroyed, State.handle, State.stop, hs.started]
  have hleave : leave ⟨some (config, s), false, .unlooped, none⟩
      = .error (.breach .startedServer) := by
    simp only [leave, stop, hchecked, ok_bind, hs.destroy, error_bind]
  intro h
  have hstep := h.2 ⟨some (config, s), false, .unlooped, some .startedServer⟩ (by
    rw [step_eq rfl, handle, if_pos rfl, hleave])
  cases hstep

/-- `run` as far as it depends on `start`. -/
theorem run_eq {launch : Launch} (h : launch.starts = true) (a : Application) (inputs : Inputs) :
    a.run launch inputs = (do
      let (a, started) ← a.start inputs
      if started then return { a with phase := .looping } else a.destroy 2) := by
  obtain ⟨⟨hvalid, hhelp⟩, hdaemon⟩ : (launch.validArguments = true ∧
      launch.printHelp = false) ∧ (launch.daemonize = false ∨ launch.daemonSucceeds = true) := by
    simpa [Launch.starts] using h
  have hforks : (launch.daemonize && !launch.daemonSucceeds) = false := by
    rcases hdaemon with h | h
    · simp [h]
    · simp [h]
  rw [run, hvalid, hhelp, hforks]
  rfl

/-- `run` returns at once. -/
theorem run_returns {launch : Launch} (h : launch.starts ≠ true) (a : Application)
    (inputs : Inputs) : ∃ code, a.run launch inputs = .ok { a with phase := .returned code } := by
  unfold run
  split
  · exact ⟨_, rfl⟩
  · next hargs =>
    split
    · exact ⟨_, rfl⟩
    · next hforks =>
      refine absurd ?_ h
      simp at hargs hforks
      simpa [Launch.starts, hargs, or_iff_not_imp_left] using hforks

theorem decided_run (launch : Launch) (inputs : Inputs) :
    create.Decided (.run launch inputs) := by
  have hcreate : create.Invariant := .outside _ rfl
  by_cases hlaunch : launch.starts = true
  -- behind the launch `run` is the start of the router and the loop
  · have hrun : create.handle (.run launch inputs) = (do
        let (a, started) ← create.start inputs
        if started then return { a with phase := .looping } else a.destroy 2) :=
      run_eq hlaunch create inputs
    rcases start_cases (a := create) rfl inputs with ⟨hstart, e, he⟩ | ⟨config, -, hcases⟩
    · rw [hstart] at hrun
      -- the file is bad, and no router is made
      refine .of_handle hcreate (fun _ _ config hconfig => ?_) hrun (.outside _ rfl)
      rw [he] at hconfig
      cases hconfig
    · rcases hcases with ⟨hwhole, hstart⟩ | ⟨s, ⟨hwhole, hs, hstart⟩ | ⟨hwhole, hs, hstart⟩ |
        ⟨hpartly, hs, hstart⟩⟩
      -- the constructor of the router fails its check
      · refine Or.inl ⟨fun _ _ => hwhole, fun a' ha' => ?_⟩
        rw [step_eq rfl, hrun, hstart] at ha'
        cases ha'
      · rw [hstart] at hrun
        exact .of_handle hcreate (fun _ _ => hwhole) hrun (.serving config s true .looping rfl hs)
      -- not even the first server listens, and the router is destroyed as it was made
      · have hend : create.handle (.run launch inputs)
            = .ok ⟨none, false, .returned 2, none⟩ := by
          rw [hrun, hstart]
          simp only [ok_bind, destroy, hs.destroy, create]
          rfl
        exact .of_handle hcreate (fun _ _ => hwhole) hend (.outside _ rfl)
      -- the router is destroyed with a server that runs
      · have hend : create.handle (.run launch inputs) = .error (.breach .startedServer) := by
          rw [hrun, hstart]
          simp only [ok_bind, destroy, hs.destroy, create]
          rfl
        refine Or.inr ⟨fun h => hpartly (h rfl hlaunch),
          { create with breach := some .startedServer }, ?_, fun h => by cases h.1⟩
        rw [step_eq rfl, hend]
  -- the launch itself fails
  · obtain ⟨code, hrun⟩ := run_returns hlaunch create inputs
    exact .of_handle hcreate (fun _ h => absurd h hlaunch) hrun (.outside _ rfl)

/-- A restart of a router that serves. -/
theorem decided_hup (config : Config) {s : State} {phase : Phase} (hphase : phase.inLoop = true)
    (hs : s.Serving) (inputs : Inputs) :
    Decided ⟨some (config, s), true, phase, none⟩ (.signal .hup inputs) := by
  have ha : Invariant ⟨some (config, s), true, phase, none⟩ :=
    .serving config s true phase hphase hs
  have hcases := stop_serving (a := ⟨some (config, s), true, phase, none⟩) rfl hs
  rcases hcases with ⟨hdown, hstop⟩ | ⟨hup, hstop⟩
  · -- the program does not come back from `stop`
    refine Or.inl ⟨fun _ => Or.inl ⟨config, s, rfl, hdown⟩, fun a' ha' => ?_⟩
    simp only [step_eq ha.breach, handle, if_true, onSignal, hstop, error_bind] at ha'
    cases ha'
  -- the old router is gone before the file is read
  · have hrun : handle ⟨some (config, s), true, phase, none⟩ (.signal .hup inputs) = (do
        let (a, started) ← start ⟨none, false, phase, none⟩ inputs
        if started then return a else return { a with phase := .unlooped }) := by
      simp only [handle, if_true, onSignal, hstop]
      rfl
    have hnot : ¬ ((∃ config, inputs.config = .ok config) ∧ inputs.Whole) →
        ¬ Admissible ⟨some (config, s), true, phase, none⟩ (.signal .hup inputs) := by
      rintro hbad h
      rcases h rfl with ⟨config', s', hrouter, hdown⟩ | hgood
      · cases hrouter
        exact hup hdown
      · exact hbad hgood
    rcases start_cases (a := ⟨none, false, phase, none⟩) rfl inputs with
      ⟨hstart, e, he⟩ | ⟨config', hconfig, hcases⟩
    · -- the bad file: the loop is left without a router
      refine Or.inr ⟨hnot ?_, ⟨none, false, .unlooped, none⟩, ?_, not_sound_null⟩
      · rintro ⟨⟨config', hconfig⟩, -⟩
        rw [he] at hconfig
        cases hconfig
      · rw [step_eq rfl, hrun, hstart]
        rfl
    · rcases hcases with ⟨hwhole, hstart⟩ | ⟨s', ⟨hwhole, hs', hstart⟩ | ⟨hwhole, hs', hstart⟩ |
        ⟨hpartly, hs', hstart⟩⟩
      -- the constructor fails its check, and the program does not come back
      · refine Or.inl ⟨fun _ => Or.inr ⟨⟨config', hconfig⟩, hwhole⟩, fun a' ha' => ?_⟩
        rw [step_eq rfl, hrun, hstart] at ha'
        cases ha'
      · rw [hstart] at hrun
        exact .of_handle ha (fun _ => Or.inr ⟨⟨config', hconfig⟩, hwhole⟩) hrun
          (.serving config' s' true phase hphase hs')
      · rw [hstart] at hrun
        exact .of_handle ha (fun _ => Or.inr ⟨⟨config', hconfig⟩, hwhole⟩) hrun
          (.idle config' s' hs')
      · -- the loop is left with servers that nobody stops
        refine Or.inr ⟨hnot fun h => hpartly h.2, ⟨some (config', s'), false, .unlooped, none⟩,
          ?_, not_sound_halfway config' hs'⟩
        rw [step_eq rfl, hrun, hstart]
        rfl

/-- An event of a router that serves. -/
theorem decided_router (config : Config) {s : State} (signals : Bool) {phase : Phase}
    (hphase : phase.inLoop = true) (hs : s.Serving) {e : Router.Event} (he : e.isCall = false) :
    Decided ⟨some (config, s), signals, phase, none⟩ (.router e) := by
  have hrun : handle ⟨some (config, s), signals, phase, none⟩ (.router e) = (do
      let s ← s.handleChecked config e
      return ⟨some (config, s), signals, phase, none⟩) := by
    simp only [handle, hphase, he]
    rfl
  -- the only breach is a new connection under a number that is taken
  by_cases htaken : e = .accept ∧ s.NumberTaken
  · obtain ⟨rfl, htaken⟩ := htaken
    have hbreach : s.handleChecked config .accept = .error (.breach .startedListener) := by
      have hdestroyed : s.destroyed config .accept = [fresh.subscribe] := by
        rw [State.destroyed, if_neg (by simp [hs.started])]
        exact if_pos htaken
      rw [State.handleChecked, hdestroyed]
      rfl
    refine Or.inr ⟨fun h => h hphase config s rfl hs.started htaken,
      ⟨some (config, s), signals, phase, some .startedListener⟩, ?_, fun h => by cases h.1⟩
    rw [step_eq rfl, hrun, hbreach]
    rfl
  -- otherwise no listener is destroyed, and the handler does what the router does
  · have hfree : e = .accept → s.started = true → ¬ s.NumberTaken :=
      fun h _ ht => htaken ⟨h, ht⟩
    have hadmissible : Admissible ⟨some (config, s), signals, phase, none⟩ (.router e) := by
      refine admissible_router fun haccept _ config' s' hrouter => ?_
      cases hrouter
      exact hfree haccept
    refine Or.inl ⟨hadmissible, fun a' ha' => ?_⟩
    rw [step_eq rfl, hrun, State.handleChecked_eq hs.subscribed hfree] at ha'
    cases hhandle : s.handle config e with
    | error f =>
      rw [hhandle] at ha'
      cases ha'
    | ok s' =>
      rw [hhandle] at ha'
      cases ha'
      exact .serving config s' signals phase hphase (hs.handle he hhandle)

/-- A signal: only a hangup restarts the router, and only while the listeners are on. -/
theorem Invariant.decided_signal {a : Application} (ha : a.Invariant) (signal : Signal)
    (inputs : Inputs) : a.Decided (.signal signal inputs) := by
  -- the listeners are started with the router and stopped before it
  have hquiet : a.signals = false → a.Decided (.signal signal inputs) := by
    intro hoff
    refine .of_handle ha ?_ (by simp [handle, hoff]) ha
    cases signal with
    | hup =>
      intro hon
      rw [hoff] at hon
      cases hon
    | _ => trivial
  cases ha with
  | outside => exact hquiet rfl
  | idle => exact hquiet rfl
  | serving config s signals phase h hs =>
    cases signals with
    | false => exact hquiet rfl
    | true =>
      have ha : Invariant ⟨some (config, s), true, phase, none⟩ :=
        .serving config s true phase h hs
      have hunlooped : Invariant ⟨some (config, s), true, .unlooped, none⟩ :=
        .serving config s true .unlooped rfl hs
      cases signal with
      | hup => exact decided_hup config h hs inputs
      | term => exact .of_handle ha trivial rfl hunlooped
      | int => exact .of_handle ha trivial rfl hunlooped

/-- An event of the router: only a router that was started handles it. -/
theorem Invariant.decided_event {a : Application} (ha : a.Invariant) (e : Router.Event) :
    a.Decided (.router e) := by
  -- an event that the application does not pass on does nothing
  have hquiet : a.handle (.router e) = .ok a →
      (∀ config s, a.router = some (config, s) → s.started = false ∨ e ≠ .accept) →
      a.Decided (.router e) := by
    intro hhandle hidle
    refine .of_handle ha (admissible_router fun haccept _ config s hrouter hstarted => ?_)
      hhandle ha
    rcases hidle config s hrouter with h | h
    · rw [h] at hstarted
      cases hstarted
    · exact absurd haccept h
  cases ha with
  | outside => exact hquiet rfl (fun config s h => by cases h)
  | serving config s signals phase h hs =>
    cases he : e.isCall with
    -- the calls of the router are the program's own
    | true =>
      refine hquiet (by simp [handle, he]) fun _ _ _ => Or.inr ?_
      rintro rfl
      cases he
    | false => exact decided_router config signals h hs he
  | idle config s hs =>
    refine hquiet ?_ fun config' s' h => ?_
    · cases he : e.isCall with
      | true => simp [handle, he]
      | false =>
        -- an idle router does nothing in any event
        have hchecked : s.handleChecked config e = .ok s := by
          rw [State.handleChecked_eq hs.allSubscribed
            (fun _ h => absurd hs.started (by simp [h])), hs.handle config he]
          rfl
        simp only [handle, Phase.inLoop, he, hchecked]
        rfl
    · cases h
      exact Or.inl hs.started

/-- **Every event is decided**, in every state of a run so far without a breach. -/
theorem Invariant.decided {a : Application} (ha : a.Invariant) (e : Event) : a.Decided e := by
  cases e with
  | run launch inputs =>
    by_cases hphase : a.phase = .created
    · cases ha with
      | outside phase =>
        cases hphase
        exact decided_run launch inputs
      | serving config s signals phase h =>
        cases hphase
        cases h
      | idle => cases hphase
    · exact .of_handle ha (fun h => absurd h hphase) (by simp only [handle, hphase, if_false]) ha
  | signal signal inputs => exact ha.decided_signal signal inputs
  | router e => exact ha.decided_event e
  | leave => exact Or.inl ⟨trivial, fun _ h => ha.leave h⟩

/-- **The runs without a breach.**  A run of the service calls no method of a null router
and destroys nothing that is started exactly when no restart reads a bad file, no start
fails at a listen call behind the first, and no client is accepted under a number in
use. -/
theorem always_sound_iff (es : List Event) :
    Run.Always step Sound create es ↔ Run.Along step Admissible create es := by
  refine Run.always_iff_along (I := Invariant) ?_ (fun _ => Invariant.sound) ?_ es create
    (.outside _ rfl)
  · intro a e a' ha he h
    rcases ha.decided e with ⟨-, hkeeps⟩ | ⟨hnot, -⟩
    · exact hkeeps a' h
    · exact absurd he hnot
  · intro a e ha he
    rcases ha.decided e with ⟨hadmissible, -⟩ | ⟨-, hbreach⟩
    · exact absurd hadmissible he
    · exact hbreach

/-! ### Two runs -/

/-- A file with two bindings. -/
def sampleFile : Values :=
  ((((OrderedMap.empty.insert "network.net.address".toList "10.0.0.1".toList).insert
    "device.lamp.network".toList "net".toList).insert "device.lamp.id".toList "05".toList).insert
    "bind.first.port".toList "2020".toList).insert "bind.second.port".toList "2021".toList

/-- A start in the foreground. -/
def sampleLaunch : Launch := ⟨true, false, false, false⟩

/-- A restart that does not find the file calls `stop` on null; a start that cannot listen
on the second binding destroys the server of the first while it is started. -/
theorem failures_breach :
    (∃ a, Run.exec step create
        [.run sampleLaunch ⟨.ok sampleFile, fun _ => true, fun _ => true⟩,
          .signal .hup ⟨.error (.runtimeError "Configuration file not found"), fun _ => true,
            fun _ => true⟩,
          .leave] = some a ∧ a.breach = some .nullRouter) ∧
      ∃ a, Run.exec step create
        [.run sampleLaunch ⟨.ok sampleFile, fun i => i == 0, fun _ => true⟩] = some a ∧
        a.breach = some .startedServer :=
  ⟨⟨_, rfl, rfl⟩, _, rfl, rfl⟩

end Application
end Router
end HomeAutomation
