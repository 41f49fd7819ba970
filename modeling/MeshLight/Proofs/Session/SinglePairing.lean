import MeshLight.Proofs.Session.Accounts
import MeshLight.Proofs.Session.Constancy
import MeshLight.Proofs.Session.Lamp
import MeshLight.Proofs.Session.Readiness

/-!
# One pairing for all ready links

A message for a ready link starts a pairing only if it finds no key. So where no caller asks for a
pairing, none is started before such a message finds no key, and the pairing that it starts then has
been started alone when it ends. It stays the only one as long as its key is kept, because every
later message for a ready link finds the key.

The key can be lost in two ways, which are set aside: the link is lost, or an operation fails and
the policy for failures drops the key.
-/

namespace MeshLight.Session

open Link (ConnectionEvent Transport)

namespace Worker

variable {State : Type} {transport : Transport State} {worker : Worker State}

/-! ## Starts of pairings -/

/-- How many pairings were started. -/
def starts (worker : Worker State) : Nat :=
  worker.world.events.count .pairingStarted

/-- The key is lost. -/
def Loses (transport : Transport State) (worker : Worker State) (occurrence : Occurrence) : Prop :=
  worker.tracker.key ≠ none ∧ (worker.occur transport occurrence).tracker.key = none

/-- The worker drops the key on its own account. -/
def Drops (worker : Worker State) (occurrence : Occurrence) : Prop :=
  occurrence = .step ∧
    ∃ ticket next spent, worker.activity = .busy ticket (.act .clearKey next) spent

/-- An operation is at its end with this result. -/
def Ends (worker : Worker State) (ticket : Option Nat) (result : Result) : Prop :=
  ∃ controller spent, worker.activity = .busy ticket (.done (result, controller)) spent

/-- No pairing that a caller asked for stands in the queue. -/
def Unasked (worker : Worker State) : Prop :=
  ∀ ticket, .request ticket .pair ∉ worker.queue

/-- A message that is no pairing leaves no pairing in the queue. -/
theorem Unasked.enqueue (unasked : worker.Unasked) {message : Message}
    (other : ∀ ticket, message ≠ .request ticket .pair) : (worker.enqueue message).Unasked := by
  intro ticket
  unfold Worker.enqueue
  split
  · exact unasked ticket
  · simp only [List.mem_append, List.mem_singleton, not_or]
    exact ⟨unasked ticket, (other ticket).symm⟩

/-- If no caller asks for a pairing, there is none in the queue. -/
theorem Unasked.occur (unasked : worker.Unasked) {occurrence : Occurrence}
    (other : occurrence ≠ .submit .pair) : (worker.occur transport occurrence).Unasked := by
  generalize happened : worker.occur transport occurrence = later
  cases occurs happened with
  | stepped _ does =>
    cases does with
    | begin message queue idle queued =>
      have rest (ticket : Nat) : .request ticket .pair ∉ queue := fun inside =>
        unasked ticket (by rw [queued]; exact List.mem_cons_of_mem _ inside)
      rcases begin_mark message ({ worker with queue } : Worker State) with stopped | ⟨kept, -⟩
      · rw [stopped]
        exact fun ticket => List.not_mem_nil
      · exact fun ticket => kept ▸ rest ticket
    | conclude => exact unasked
    | act => exact unasked
    | decide => exact unasked
  | submitted request =>
    have numbered : ({ worker with nextTicket := worker.nextTicket + 1 } : Worker State).Unasked :=
      unasked
    refine numbered.enqueue fun ticket same => other ?_
    cases same
    rfl
  | asked =>
    have marked : ({ worker with pairQueued := true } : Worker State).Unasked := unasked
    exact marked.enqueue (by simp)
  | shut =>
    have torn : ({ worker with world := worker.world.withTracker worker.tracker.cancel } :
        Worker State).Unasked := unasked
    exact torn.enqueue (by simp)
  | _ => exact unasked

/-- An action that does not report the start of a pairing. -/
theorem perform_starts {action : Action} (other : action ≠ .emit .pairingStarted)
    (world : World State) :
    (action.perform transport world).2.events.count .pairingStarted =
      world.events.count .pairingStarted := by
  cases action with
  | emit event =>
    have different : event ≠ .pairingStarted := fun same => other (congrArg _ same)
    simp [Action.perform, World.emit, different]
  | _ => rfl

/-- The starts are among what was told, dropped keys aside. -/
theorem starts_told : worker.starts = worker.world.told.events.count .pairingStarted :=
  (List.count_filter (by decide)).symm

/-- Nobody but the worker tells anything, dropped keys aside. -/
theorem occur_told {occurrence : Occurrence} (waits : ¬worker.GoesOn transport occurrence) :
    (worker.occur transport occurrence).world.told = worker.world.told := by
  generalize happened : worker.occur transport occurrence = later
  cases occurs happened with
  | stepped stepped => exact absurd (by simp [GoesOn, stepped]) waits
  | dropped => simp [World.told, World.emit, World.count, World.withTracker]
  | submitted | asked => simp
  | shut => simp [World.told, World.withTracker]
  | _ => rfl

/-- Nobody but the worker reports the start of a pairing. -/
theorem occur_starts {occurrence : Occurrence} (waits : ¬worker.GoesOn transport occurrence) :
    (worker.occur transport occurrence).starts = worker.starts := by
  rw [starts_told, occur_told waits, starts_told]

/-! ## The first pairing -/

/-- What is told when the operation under way ends, dropped keys aside, will be as `post` says. -/
def Underway (ticket : Option Nat) (post : Result × Controller → Telling → Prop)
    (worker : Worker State) : Prop :=
  ∃ rest spent standing, worker.activity = .busy ticket rest spent ∧
    rest.Tells (fun ended _ told => post ended told) standing worker.world.told

/-- Whatever happens to a worker, its operation stays under way or ends as it will. -/
theorem Underway.occur {ticket : Option Nat} {post : Result × Controller → Telling → Prop}
    (underway : worker.Underway ticket post) (occurrence : Occurrence) :
    (worker.occur transport occurrence).Underway ticket post ∨
      (worker.occur transport occurrence).activity = .idle ∧
        ∃ ended, post ended (worker.occur transport occurrence).world.told := by
  obtain ⟨rest, spent, standing, busy, tells⟩ := underway
  by_cases goes : worker.GoesOn transport occurrence
  case neg =>
    exact .inl ⟨rest, spent, standing, (occur_waits goes).activity.trans busy,
      (occur_told goes).symm ▸ tells⟩
  generalize happened : worker.occur transport occurrence = later
  cases occurs happened with
  | stepped _ does =>
    cases does with
    | begin message queue idle => simp [busy] at idle
    | conclude ticket result controller same =>
      cases busy.symm.trans same
      exact .inr ⟨rfl, _, tells⟩
    | act ticket action next same =>
      cases busy.symm.trans same
      obtain ⟨standing, -, behind⟩ := tells (action.perform transport worker.world).1
      refine .inl ⟨_, _, standing, rfl, ?_⟩
      rw [Action.perform_told]
      exact behind
    | decide ticket targets next verdict same =>
      cases busy.symm.trans same
      exact .inl ⟨_, _, standing, rfl, tells verdict⟩
  | expired ticket targets next same =>
    cases busy.symm.trans same
    exact .inl ⟨_, _, standing, rfl, tells .timedOut⟩
  | unstepped stuck => simp [GoesOn, stuck] at goes
  | unexpired stuck => simp [GoesOn, stuck] at goes
  | _ => cases goes

/-- At its end an operation has told what it will. -/
theorem Underway.ends {ticket other : Option Nat} {post : Result × Controller → Telling → Prop}
    (underway : worker.Underway ticket post) {result : Result} (ends : worker.Ends other result) :
    other = ticket ∧ ∃ controller, post (result, controller) worker.world.told := by
  obtain ⟨rest, spent, standing, busy, tells⟩ := underway
  obtain ⟨controller, spentToo, finished⟩ := ends
  cases busy.symm.trans finished
  exact ⟨rfl, controller, tells⟩

/-- No pairing was started, and what is under way starts none. Only a message for a ready link that
is about to ask for the key may still lead to one. -/
def Unstarted (worker : Worker State) : Prop :=
  (worker.starts = 0 ∧ (worker.activity = .idle ∨ worker.activity = .stopped ∨
      worker.activity = .busy none worker.controller.greet 0)) ∨
    ∃ ticket, worker.Underway ticket fun _ told => told.events.count .pairingStarted = 0

/-- No request but a pairing reports the start of one. -/
theorem reports_unstarted {request : Request} (other : request ≠ .pair) (result : Result) :
    (request.reports result).count .pairingStarted = 0 := by
  cases request with
  | pair => exact absurd rfl other
  | light command => cases result <;> rfl
  | status =>
    cases result with
    | ok answer => cases answer <;> rfl
    | error failure => rfl
  | migrate credentials longTermKey => cases result <;> rfl

/-- To begin a message starts no pairing, nor will what is then under way, unless a caller asks for
a pairing. -/
theorem begin_unstarted (none : worker.starts = 0) {message : Message}
    (other : ∀ ticket, message ≠ .request ticket .pair) : (worker.begin message).Unstarted := by
  unfold Worker.begin
  split
  · exact .inl ⟨none, .inr (.inl rfl)⟩
  · cases message with
    | request ticket content =>
      have plain : content ≠ .pair := fun same => other ticket (congrArg _ same)
      have rests : Standing.settled.Rests := True.intro
      have performs : (worker.controller.perform worker.meshId content).Tells
          (fun _ _ told => told.events.count .pairingStarted = 0) .settled worker.world.told := by
        refine (worker.controller.perform_tells worker.meshId content rests _).weaken ?_
        rintro ended later told ⟨-, rfl⟩
        rw [Telling.also, List.count_append, ← starts_told, none, reports_unstarted plain]
      cases content with
      | pair => exact absurd rfl plain
      | light command => exact .inr ⟨some ticket, _, _, _, rfl, performs⟩
      | status => exact .inr ⟨some ticket, _, _, _, rfl, performs⟩
      | migrate credentials longTermKey => exact .inr ⟨some ticket, _, _, _, rfl, performs⟩
    | ready => exact .inl ⟨none, .inr (.inr rfl)⟩
    | shutdown => exact .inl ⟨none, .inr (.inl rfl)⟩

/-- No pairing is started as long as every message for a ready link finds a key. -/
theorem Unstarted.occur (unstarted : worker.Unstarted) (unasked : worker.Unasked)
    {occurrence : Occurrence}
    (found : worker.Decides transport occurrence → worker.tracker.key ≠ none) :
    (worker.occur transport occurrence).Unstarted := by
  rcases unstarted with ⟨none, activity⟩ | ⟨ticket, underway⟩
  case inr =>
    rcases underway.occur occurrence with still | ⟨idle, _, untold⟩
    · exact .inr ⟨ticket, still⟩
    · exact .inl ⟨starts_told.trans untold, .inl idle⟩
  by_cases goes : worker.GoesOn transport occurrence
  case neg =>
    have waits : Waits worker (worker.occur transport occurrence) := occur_waits goes
    refine .inl ⟨(occur_starts goes).trans none, ?_⟩
    rw [waits.activity, waits.controller]
    exact activity
  rcases activity with idle | stopped | greeting
  · cases queued : worker.queue with
    | nil => cases occurrence <;> simp [GoesOn, step?, expire?, idle, queued] at goes
    | cons message queue =>
      rw [idle_goesOn idle queued goes]
      have fresh : ({ worker with queue } : Worker State).starts = 0 := none
      refine begin_unstarted fresh fun ticket same => unasked ticket ?_
      rw [queued, same]
      exact List.mem_cons_self
  · cases occurrence <;> simp [GoesOn, step?, expire?, stopped] at goes
  · have asking := greeting
    rw [Controller.greet_eq] at asking
    obtain ⟨stepped, performed⟩ := act_goesOn asking goes
    have decides : worker.Decides transport occurrence :=
      ⟨greeting, stepped, congrArg Worker.activity performed⟩
    obtain ⟨key, held⟩ := Option.ne_none_iff_exists'.mp (found decides)
    have ends : (worker.controller.answerReady worker.tracker.key).Tells
        (fun _ _ told => told.events.count .pairingStarted = 0) .settled worker.world.told := by
      rw [held]
      exact starts_told.symm.trans none
    rw [performed]
    exact .inr ⟨_, _, _, .settled, rfl, ends⟩

/-- A message for a ready link that finds no key starts a pairing, which is then alone. -/
theorem Unstarted.misses (unstarted : worker.Unstarted) {occurrence : Occurrence}
    (decides : worker.Decides transport occurrence) (keyless : worker.tracker.key = none) :
    (worker.occur transport occurrence).Underway none
      fun _ told => told.events.count .pairingStarted = 1 := by
  obtain ⟨greeting, rfl, -⟩ := decides
  have none : worker.starts = 0 := by
    rcases unstarted with ⟨none, -⟩ | ⟨ticket, rest, spent, standing, busy, tells⟩
    · exact none
    · cases greeting.symm.trans busy
      rw [Controller.greet_eq] at tells
      -- With a key the message would end at once, and tell nothing.
      obtain ⟨_, -, ends⟩ := tells (some ⟨Vector.replicate 16 0⟩)
      have untold : (worker.world.told.also [] []).events.count .pairingStarted = 0 := ends
      rwa [Telling.also_nothing, ← starts_told] at untold
  have rests : Standing.settled.Rests := True.intro
  have pairs : (worker.controller.answerReady worker.tracker.key).Tells
      (fun _ _ told => told.events.count .pairingStarted = 1) .settled worker.world.told := by
    rw [keyless]
    refine (worker.controller.pair_tells rests _).bind fun ended later told paired => ?_
    have alone : told.events.count .pairingStarted = 1 := by
      rw [paired.2, Telling.also, List.count_append, ← starts_told, none]
      rfl
    exact alone
  have asking := greeting
  rw [Controller.greet_eq] at asking
  have goes : worker.GoesOn transport .step := by simp [GoesOn, step?, asking]
  obtain ⟨-, performed⟩ := act_goesOn asking goes
  rw [performed]
  exact ⟨_, _, .settled, rfl, pairs⟩

/-! ## A session that nothing takes away -/

/-- What a worker that starts no pairing is doing: nothing, with a key; or an operation that holds
while the key is there, or fails. -/
def Content (worker : Worker State) : Prop :=
  match worker.activity with
  | .idle => worker.tracker.key ≠ none
  | .busy _ rest _ =>
    worker.tracker.key ≠ none ∧ rest.Holding (fun _ => True) Controller.Failed ∨
      rest.Failing Controller.Failed
  | .stopped => True

/-- A worker that does what it did stays content unless the key is lost. -/
theorem Content.waits {later : Worker State} (content : worker.Content)
    (activity : later.activity = worker.activity)
    (kept : worker.tracker.key ≠ none → later.tracker.key ≠ none) : later.Content := by
  unfold Content at content ⊢
  rw [activity]
  split
  · rename_i idle
    rw [idle] at content
    exact kept content
  · rename_i ticket rest spent busy
    rw [busy] at content
    exact content.imp_left (.imp_left kept)
  · exact True.intro

/-- A worker that begins a message with its key is content, unless a caller asks for a pairing. -/
theorem begin_content (keyed : worker.tracker.key ≠ none) {message : Message}
    (other : ∀ ticket, message ≠ .request ticket .pair) : (worker.begin message).Content := by
  unfold Worker.begin
  split
  · exact True.intro
  · cases message with
    | request ticket content =>
      have plain : content ≠ .pair := fun same => other ticket (congrArg _ same)
      have holding := worker.controller.perform_holding worker.meshId plain
      cases content with
      | pair => exact absurd rfl plain
      | light command => exact .inl ⟨keyed, holding⟩
      | status => exact .inl ⟨keyed, holding⟩
      | migrate credentials longTermKey => exact .inl ⟨keyed, holding⟩
    | ready => exact .inl ⟨keyed, worker.controller.greet_holding⟩
    | shutdown => exact True.intro

/-- What an action replies while the key is there. -/
theorem perform_keyed (transport : Transport State) (keyed : worker.tracker.key ≠ none)
    (action : Action) :
    action.Keyed (action.perform transport worker.world).1 := by
  cases action with
  | sessionKey => exact keyed
  | _ => exact True.intro

/-- A step leaves a content worker content and starts no pairing, if it keeps the key or drops it on
the worker's own account, and if no failing operation is at its end without the key. -/
theorem Content.step (content : worker.Content) (unasked : worker.Unasked) {later : Worker State}
    (does : Does transport worker later)
    (kept : ¬worker.Drops .step → worker.tracker.key ≠ none → later.tracker.key ≠ none)
    (harmless : ∀ ticket failure, worker.Ends ticket (.error failure) → worker.tracker.key ≠ none) :
    later.Content ∧ later.starts = worker.starts := by
  unfold Content at content
  cases does with
  | begin message queue idle queued =>
    rw [idle] at content
    have keyed : ({ worker with queue } : Worker State).tracker.key ≠ none := content
    refine ⟨begin_content keyed fun ticket same => unasked ticket ?_, by simp [starts]⟩
    rw [queued, same]
    exact List.mem_cons_self
  | conclude ticket result controller busy =>
    rw [busy] at content
    refine ⟨?_, rfl⟩
    rcases content with ⟨keyed, -⟩ | ⟨failure, failed⟩
    · exact keyed
    · obtain rfl : result = .error failure := failed
      exact harmless ticket failure ⟨controller, _, busy⟩
  | act ticket action next busy =>
    rw [busy] at content
    rcases content with ⟨keyed, starts, holding⟩ | ⟨starts, failing⟩
    · refine ⟨?_, perform_starts starts worker.world⟩
      have rest := holding _ (perform_keyed transport keyed action)
      split at rest
      · exact .inr rest
      · rename_i keeps
        refine .inl ⟨kept ?_ keyed, rest⟩
        rintro ⟨-, _, _, _, drops⟩
        rw [busy] at drops
        cases drops
        exact keeps rfl
    · exact ⟨.inr (failing _), perform_starts starts worker.world⟩
  | decide ticket targets next verdict busy =>
    rw [busy] at content
    exact ⟨content.imp (.imp_right fun holding => holding verdict) fun failing => failing verdict,
      rfl⟩

/-- A content worker stays content and starts no pairing, if only operations of its own drop the key
and none that fails has done so. -/
theorem Content.occur (content : worker.Content) (unasked : worker.Unasked)
    {occurrence : Occurrence} (own : worker.Loses transport occurrence → worker.Drops occurrence)
    (harmless : ∀ ticket failure, worker.Ends ticket (.error failure) → worker.tracker.key ≠ none) :
    (worker.occur transport occurrence).Content ∧
      (worker.occur transport occurrence).starts = worker.starts := by
  have kept (others : ¬worker.Drops occurrence) (keyed : worker.tracker.key ≠ none) :
      (worker.occur transport occurrence).tracker.key ≠ none :=
    fun lost => others (own ⟨keyed, lost⟩)
  by_cases goes : worker.GoesOn transport occurrence
  case neg =>
    refine ⟨content.waits (occur_waits goes).activity (kept ?_), occur_starts goes⟩
    rintro ⟨rfl, ticket, next, spent, busy⟩
    exact goes (by simp [GoesOn, step?, busy])
  generalize happened : worker.occur transport occurrence = later at kept ⊢
  cases occurs happened with
  | stepped _ does => exact content.step unasked does kept harmless
  | expired ticket targets next busy =>
    unfold Content at content
    rw [busy] at content
    exact ⟨content.imp (.imp_right fun holding => holding .timedOut) fun failing =>
      failing .timedOut, rfl⟩
  | unstepped stuck => simp [GoesOn, stuck] at goes
  | unexpired stuck => simp [GoesOn, stuck] at goes
  | _ => cases goes

/-- From some time on no loss of the link takes the key away, nor does anybody else but the worker,
and no operation that fails has dropped it. -/
structure Unharmed (transport : Transport State) (worker : Worker State)
    (course : Nat → Occurrence) (number : Nat) : Prop where
  own : ∀ later, number ≤ later →
    (worker.endless transport course later).Loses transport (course later) →
      (worker.endless transport course later).Drops (course later)
  harmless : ∀ later, number ≤ later → ∀ ticket failure,
    (worker.endless transport course later).Ends ticket (.error failure) →
      (worker.endless transport course later).tracker.key ≠ none

/-- The first pairing that was started is a pairing for a ready link, for which nobody holds a
ticket, and has just brought a key. -/
structure PairedOnce (worker : Worker State) : Prop where
  ends : worker.Ends none (.ok .done)
  first : worker.starts = 1
  keyed : worker.tracker.key ≠ none

section Endless

variable {course : Nat → Occurrence}

/-- If no caller ever asks for a pairing, there is none in the queue. -/
theorem Unasked.endless (unasked : worker.Unasked)
    (other : ∀ number, course number ≠ .submit .pair) (number : Nat) :
    (worker.endless transport course number).Unasked := by
  induction number with
  | zero => exact unasked
  | succ number inductionHypothesis => exact inductionHypothesis.occur (other number)

/-- After the first pairing no other one is started, unless a caller asks for it or the key goes.
The induction is on how much later it is. -/
theorem PairedOnce.stays {number : Nat}
    (paired : (worker.endless transport course number).PairedOnce) (unasked : worker.Unasked)
    (other : ∀ number, course number ≠ .submit .pair)
    (unharmed : worker.Unharmed transport course number) {later : Nat} (after : number ≤ later) :
    (worker.endless transport course later).Content ∧
      (worker.endless transport course later).starts = 1 := by
  induction later, after using Nat.le_induction with
  | base =>
    obtain ⟨controller, spent, busy⟩ := paired.ends
    refine ⟨?_, paired.first⟩
    unfold Content
    rw [busy]
    exact .inl ⟨paired.keyed, True.intro⟩
  | succ later after inductionHypothesis =>
    obtain ⟨content, once⟩ := inductionHypothesis
    obtain ⟨still, same⟩ := content.occur (unasked.endless other _) (unharmed.own _ after)
      (unharmed.harmless _ after)
    exact ⟨still, same.trans once⟩

/-- A message for a ready link finds no key, for the first time. -/
structure FirstMiss (transport : Transport State) (worker : Worker State)
    (course : Nat → Occurrence) (number : Nat) : Prop where
  decides : (worker.endless transport course number).Decides transport (course number)
  keyless : (worker.endless transport course number).tracker.key = none
  first : ∀ earlier < number,
    (worker.endless transport course earlier).Decides transport (course earlier) →
      (worker.endless transport course earlier).tracker.key ≠ none

section FirstMiss

variable {number : Nat} (missed : worker.FirstMiss transport course number)
  (unstarted : worker.Unstarted) (unasked : worker.Unasked)
  (other : ∀ number, course number ≠ .submit .pair)

include missed unstarted unasked other

/-- Until then no pairing is started. -/
theorem FirstMiss.stillUnstarted {earlier : Nat} (before : earlier ≤ number) :
    (worker.endless transport course earlier).Unstarted := by
  induction earlier with
  | zero => exact unstarted
  | succ earlier inductionHypothesis =>
    exact (inductionHypothesis (Nat.le_of_succ_le before)).occur (unasked.endless other earlier)
      (missed.first earlier before)

/-- Then one is under way that has been started alone. The induction is on how long it takes. -/
theorem FirstMiss.underway {ended : Nat} (after : number < ended)
    (lasts : ∀ between, number < between → between ≤ ended →
      (worker.endless transport course between).activity ≠ .idle) :
    (worker.endless transport course ended).Underway none
      fun _ told => told.events.count .pairingStarted = 1 := by
  induction ended, Nat.succ_le_of_lt after using Nat.le_induction with
  | base =>
    have before := missed.stillUnstarted unstarted unasked other (Nat.le_refl number)
    exact before.misses missed.decides missed.keyless
  | succ ended later inductionHypothesis =>
    have earlier := inductionHypothesis later fun between since before =>
      lasts between since (Nat.le_succ_of_le before)
    rcases earlier.occur (course ended) with still | ⟨idle, -⟩
    · exact still
    · exact absurd idle (lasts (ended + 1) after (Nat.le_refl _))

end FirstMiss

end Endless

end Worker

/-! ## Nothing but ready links -/

/-- The worker goes on by itself, or the link is reported as ready. -/
def Occurrence.isReady : Occurrence → Bool
  | .step => true
  | .expire => true
  | .notice event => event.isReady
  | _ => false

namespace Worker

variable {State : Type} {transport : Transport State} {worker : Worker State}

/-- A worker with a key that has nothing to do but to answer ready links, and answers each of them
with its key. -/
structure AtRest (worker : Worker State) : Prop where
  keyed : worker.tracker.key ≠ none
  running : worker.tracker.cancelled = false
  messages : ∀ message ∈ worker.queue, message = .ready
  activity : worker.activity = .idle ∨ worker.activity = .busy none worker.controller.greet 0 ∨
    ∃ controller spent, worker.activity = .busy none (.done (.ok .done, controller)) spent

/-- A worker at rest has not ended. -/
theorem AtRest.alive (rest : worker.AtRest) : worker.activity ≠ .stopped := by
  rcases rest.activity with idle | greeting | ⟨controller, spent, finished⟩
  · simp [idle]
  · simp [greeting]
  · simp [finished]

/-- A worker at rest waits for nothing but messages. -/
theorem AtRest.awaits_nothing (rest : worker.AtRest) {ticket : Option Nat} {bound spent : Nat}
    {targets : List Link.Phase} {next : Link.Verdict → Procedure (Result × Controller)} :
    worker.activity ≠ .busy ticket (.await bound targets next) spent := by
  intro busy
  rcases rest.activity with idle | greeting | ⟨controller, spent, finished⟩
  · cases idle.symm.trans busy
  · rw [Controller.greet_eq] at greeting
    cases greeting.symm.trans busy
  · cases finished.symm.trans busy

/-- A worker at rest stays so. -/
theorem AtRest.occur (rest : worker.AtRest) {occurrence : Occurrence}
    (ready : occurrence.isReady = true) : (worker.occur transport occurrence).AtRest := by
  have ⟨keyed, running, messages, activity⟩ := rest
  generalize happened : worker.occur transport occurrence = later
  cases occurs happened with
  | unstepped => exact rest
  | unexpired => exact rest
  | ignored => exact rest
  | stepped _ does =>
    cases does with
    | begin message queue idle queued =>
      rw [queued, List.forall_mem_cons] at messages
      obtain ⟨rfl, behind⟩ := messages
      have begun : ({ worker with queue } : Worker State).begin .ready =
          { worker with
            queue
            pairQueued := false
            activity := .busy none worker.controller.greet 0 } := by
        have goes : ({ worker with queue } : Worker State).tracker.cancelled = false := running
        simp [Worker.begin, goes]
      rw [begun]
      exact ⟨keyed, running, behind, .inr (.inl rfl)⟩
    | conclude ticket result controller busy => exact ⟨keyed, running, messages, .inl rfl⟩
    | act ticket action next busy =>
      rcases activity with idle | greeting | ⟨controller, spent, finished⟩
      · cases idle.symm.trans busy
      · rw [Controller.greet_eq] at greeting
        cases greeting.symm.trans busy
        obtain ⟨key, held⟩ := Option.ne_none_iff_exists'.mp keyed
        have answers : worker.controller.answerReady worker.tracker.key =
            .done (.ok .done, worker.controller) := congrArg worker.controller.answerReady held
        exact ⟨keyed, running, messages, .inr (.inr ⟨worker.controller, 0,
          congrArg (Activity.busy none · 0) answers⟩)⟩
      · cases finished.symm.trans busy
    | decide ticket targets next verdict busy => exact absurd busy rest.awaits_nothing
  | expired ticket targets next busy => exact absurd busy rest.awaits_nothing
  | asked event =>
    have alive : ({ worker with pairQueued := true } : Worker State).activity ≠ .stopped :=
      rest.alive
    rw [enqueue_alive alive]
    refine ⟨keyed, running, fun message among => ?_, activity⟩
    rcases List.mem_append.mp among with before | last
    · exact messages message before
    · exact List.mem_singleton.mp last
  | _ => cases ready

/-- Ready links do no harm to a worker at rest. The induction is on how much later it is. -/
theorem AtRest.unharmed {course : Nat → Occurrence} {number : Nat}
    (rest : (worker.endless transport course number).AtRest)
    (ready : ∀ later, number ≤ later → (course later).isReady = true) :
    worker.Unharmed transport course number := by
  have still (later : Nat) (after : number ≤ later) :
      (worker.endless transport course later).AtRest := by
    induction later, after using Nat.le_induction with
    | base => exact rest
    | succ later after inductionHypothesis => exact inductionHypothesis.occur (ready later after)
  refine ⟨fun later after loses => ?_, fun later after _ _ _ => (still later after).keyed⟩
  exact absurd loses.2 (still (later + 1) (by omega)).keyed

end Worker

/-- If no caller asks for a pairing, the first one is started by the first message for a ready link
that finds no key. No other one has been started when it ends, however it ends, and nobody holds a
ticket for it. -/
theorem first_pairing_alone {State : Type} (transport : Transport State) (settings : Settings)
    (unseeded : Random.Source) (state : State) (course : Nat → Occurrence)
    (other : ∀ number, course number ≠ .submit .pair) {number ended : Nat} :
    let worker := Worker.start settings unseeded state
    let later := worker.endless transport course
    worker.FirstMiss transport course number → number < ended →
      (∀ between, number < between → between ≤ ended → (later between).activity ≠ .idle) →
        ∀ ticket result, (later ended).Ends ticket result →
          ticket = none ∧ (later ended).starts = 1 := by
  intro worker later missed after lasts ticket result ends
  have unstarted : worker.Unstarted := .inl ⟨rfl, .inl rfl⟩
  have unasked : worker.Unasked := fun _ => List.not_mem_nil
  have underway := missed.underway unstarted unasked other after lasts
  obtain ⟨same, _, alone⟩ := underway.ends ends
  exact ⟨same, Worker.starts_told.trans alone⟩

/-- Whatever happens to a worker that began without a session, over any transport: a marked worker
that is alive has a message for a ready link in its queue; if it goes on whenever it can, it decides
after every report of a ready link, or ends; between two messages for a ready link that are put into
its queue it takes one that takes the mark back; and if no caller asks for a pairing, the first one
brings a key, and neither a loss of the link nor a failing operation takes that key away, there is
just one. -/
theorem ready_links_heeded {State : Type} (transport : Transport State) (settings : Settings)
    (unseeded : Random.Source) (state : State) (course : Nat → Occurrence) :
    let worker := Worker.start settings unseeded state
    let later := worker.endless transport course
    (∀ number, (later number).Mindful) ∧
      (worker.Fair transport course →
        ∀ number event, course number = .notice event → event.isReady = true →
          ∃ next, number < next ∧
            ((later next).Decides transport (course next) ∨ (later next).activity = .stopped)) ∧
      (∀ first second, first < second → (later first).Asks transport (course first) →
        (later second).Asks transport (course second) →
          ∃ between, first < between ∧ between < second ∧ (later between).Takes (course between)) ∧
      ∀ number, (later number).PairedOnce → (∀ number, course number ≠ .submit .pair) →
        worker.Unharmed transport course number →
          ∀ next, number ≤ next → (later next).starts = 1 := by
  intro worker later
  have mindful : worker.Mindful := fun _ marked => nomatch marked
  have unasked : worker.Unasked := fun _ => List.not_mem_nil
  refine ⟨mindful.endless, fun fair _ _ noticed ready => fair.heeds mindful noticed ready,
    fun _ _ order one two => Worker.takes_between order one two, ?_⟩
  intro number paired other unharmed next after
  exact (paired.stays unasked other unharmed after).2

/-- A worker beside a light with the same credentials. -/
def besideLight : Worker Bulb :=
  .start { address := someLight.address, credentials := someLight.credentials }
    { word := fun _ => 7 } (Bulb.new someLight { word := fun _ => 5 })

/-- The link is reported as ready again and again. -/
def readyForever : Nat → Occurrence :=
  Worker.interleave fun _ => .notice .servicesResolved

/-- By then the first pairing is finished, and a message for a later report is in the queue. -/
theorem readyForever_paired :
    let paired := besideLight.endless Bulb.transport readyForever 94
    (match paired.activity with
      | .busy none (.done (.ok .done, _)) _ => true
      | _ => false) = true ∧
      paired.starts = 1 ∧ paired.isEstablished = true ∧ paired.tracker.cancelled = false ∧
      (paired.queue.all fun message =>
        match message with
        | .ready => true
        | _ => false) = true := by
  decide +kernel

/-- Only two of the reports before the end of the first pairing put a message into the queue, and
neither the second one of these nor any later one starts a pairing. -/
theorem ready_links_heeded_forever :
    let later := besideLight.endless Bulb.transport readyForever
    besideLight.Fair Bulb.transport readyForever ∧
      (∃ next, 2 < next ∧ ((later next).Decides Bulb.transport (readyForever next) ∨
        (later next).activity = .stopped)) ∧
      (later 2).Asks Bulb.transport (readyForever 2) ∧
      (later 5).Asks Bulb.transport (readyForever 5) ∧
      (∃ between, 2 < between ∧ between < 5 ∧ (later between).Takes (readyForever between)) ∧
      (later 94).PairedOnce ∧ besideLight.Unharmed Bulb.transport readyForever 94 ∧
      ∀ next, 94 ≤ next → (later next).starts = 1 := by
  intro later
  have fair : besideLight.Fair Bulb.transport readyForever := Worker.interleave_fair _
  have one : (later 2).Asks Bulb.transport (readyForever 2) := rfl
  have two : (later 5).Asks Bulb.transport (readyForever 5) := rfl
  obtain ⟨ended, once, established, running, messages⟩ := readyForever_paired
  have finished : (later 94).Ends none (.ok .done) := by
    split at ended
    · rename_i controller spent busy
      exact ⟨controller, spent, busy⟩
    · cases ended
  have keyed : (later 94).tracker.key ≠ none := Option.isSome_iff_ne_none.mp established
  have rest : (later 94).AtRest := by
    refine ⟨keyed, running, fun message among => ?_, .inr (.inr finished)⟩
    have isReady := List.all_eq_true.mp messages message among
    split at isReady
    · rfl
    · cases isReady
  have ready (number : Nat) : (readyForever number).isReady = true := by
    unfold readyForever Worker.interleave
    split <;> rfl
  have unasked (number : Nat) : readyForever number ≠ .submit .pair := by
    intro asked
    have impossible := ready number
    rw [asked] at impossible
    cases impossible
  have unharmed := rest.unharmed fun later _ => ready later
  obtain ⟨-, heeds, takes, single⟩ := ready_links_heeded Bulb.transport
    { address := someLight.address, credentials := someLight.credentials } { word := fun _ => 7 }
    (Bulb.new someLight { word := fun _ => 5 }) readyForever
  exact ⟨fair, heeds fair 2 _ rfl rfl, one, two, takes 2 5 (by decide) one two,
    ⟨finished, once, keyed⟩, unharmed, single 94 ⟨finished, once, keyed⟩ unasked unharmed⟩

end MeshLight.Session
