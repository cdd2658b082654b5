import Mathlib
import DeviceRoster.Proofs.Notifying
import DeviceRoster.Proofs.Service

/-!
# From a script to the end of a notifier

A `Performance` is a watch over all categories of a configuration, during which a script is replayed and
which is then brought to its end: the managers are asked for their targets, one after the other, they are
dropped, and at last somebody waits for the notifier.  All this is done by one task.  The workers, the feeds
and the writer are other tasks, and a run is any sequence of steps of all these tasks.

## Key results

- `Performance.Sound.step`: what every step of every task keeps, and that it leaves less to be done
- `Performance.Sound.run`: a run is no longer than what there is to be done
- `Performance.Sound.exists_step`: as long as the end has not come, some task has something to do
- `Performance.Sound.merged`: at the end everything has been written
-/

namespace DeviceRoster

/-! ## The tasks -/

namespace Notifier

/-- Whether the feed at a position has something to do. -/
def canForward (y : Fleet) (n : Notifier) (position : Nat) : Bool :=
  n.feeds[position]?.any fun feed =>
    !feed.ended && (!(waiting y feed.channel).isEmpty || isClosed y feed.channel)

/-- Whether there is something to write, or the end of writing has come. -/
def canWrite (n : Notifier) : Bool :=
  !n.initial.isEmpty || !n.pipe.isEmpty || (n.feeds.all (·.ended) && !n.finished)

end Notifier

/-- What the main task is about to do. -/
inductive Stage where
  /-- These steps remain to be replayed. -/
  | replaying (rest : List Cue)
  /-- The station with this number is asked next, if there is one. -/
  | asking (i : Nat)
  /-- The station with this number has been asked. -/
  | awaiting (i : Nat)
  /-- The manager with this number is dropped next, if there is one. -/
  | dropping (i : Nat)
  /-- It waits for the notifier. -/
  | waiting
  | done

/-- Who has a turn. -/
inductive Task where
  | main
  | worker (i : Nat)
  | feed (position : Nat)
  | writer
  deriving DecidableEq

/-- A notifier watches stations of some kinds while a script is replayed at them. -/
structure Performance where
  kinds : List CategoryKind
  watch : Watch
  stage : Stage

namespace Performance

/-- Replays a step at the station of its category, if there is one. -/
def replay (p : Performance) (cue : Cue) : Watch :=
  match (p.kinds.idxOf? cue.step.category).bind fun i => (p.watch.courses[i]?).map fun c => (i, c) with
  | none => p.watch
  | some (i, c) => p.watch.move (.act i (cue.step.action cue.now c.station))

/-- What the main task does next.  An answer has come, or will not come any more, once the question has left
the queue. -/
def main (p : Performance) : Option Performance :=
  match p.stage with
  | .replaying [] => some { p with stage := .asking 0 }
  | .replaying (cue :: rest) => some { p with watch := p.replay cue, stage := .replaying rest }
  | .asking i =>
    if i < p.kinds.length then
      some { p with watch := p.watch.move (.act i (.ask .list)), stage := .awaiting i }
    else some { p with stage := .dropping 0 }
  | .awaiting i =>
    if p.watch.courses[i]?.any (·.queue.contains (.query .list)) then none
    else some { p with stage := .asking (i + 1) }
  | .dropping i =>
    if i < p.kinds.length then
      some { p with watch := p.watch.move (.act i .drop), stage := .dropping (i + 1) }
    else some { p with stage := .waiting }
  | .waiting => if p.watch.notifier.finished then some { p with stage := .done } else none
  | .done => none

/-- A task does something, if it can. -/
def step (p : Performance) : Task → Option Performance
  | .main => p.main
  | .worker i =>
    if p.watch.courses[i]?.any (!·.queue.isEmpty) then
      some { p with watch := p.watch.move (.act i .process) }
    else none
  | .feed position =>
    if Notifier.canForward p.watch.fleet p.watch.notifier position then
      some { p with watch := p.watch.move (.forward position) }
    else none
  | .writer =>
    if p.watch.notifier.canWrite then some { p with watch := p.watch.move .write } else none

/-- One step after the other, each of a task that can do something. -/
def run (p : Performance) (tasks : List Task) : Option Performance := tasks.foldlM step p

/-! ## The beginning -/

/-- The manager of a category. -/
def setup (config : Config) (kind : CategoryKind) : Setup :=
  ⟨kind.name, 1, none, kind.category, Companion.filterFor config kind, some kind.name⟩

/-- A manager that listens and has one subscriber. -/
def entry (config : Config) (kind : CategoryKind) : Course :=
  (setup config kind).opening.run [.start fun _ => default, .ask .subscribe, .process]

/-- The courses of all categories, each with one subscriber. -/
def entries (config : Config) : List Course := config.categories.eraseDups.map (entry config)

/-- The subscriptions to all categories. -/
def channels (config : Config) : List ChannelRef :=
  (List.range config.categories.eraseDups.length).map (⟨·, 0⟩)

theorem nodup_channels (config : Config) : (channels config).Nodup :=
  List.nodup_range.map fun _ _ hij => congrArg ChannelRef.station hij

theorem getElem?_entries (config : Config) (i : Nat) :
    (entries config)[i]? = (config.categories.eraseDups[i]?).map (entry config) :=
  List.getElem?_map ..

/-- There are no initial states, because no devices are tracked when the notifier is started. -/
theorem initials_entries (config : Config) : initials (entries config) (channels config) = [] := by
  refine List.flatMap_eq_nil_iff.2 fun channel hchannel => ?_
  obtain ⟨i, -, rfl⟩ := List.mem_map.1 hchannel
  rw [channel?_fleetOf, getElem?_entries]
  cases config.categories.eraseDups[i]? <;> rfl

/-- What the script is to each category, with the times at which what it causes is reported. -/
def cues (clock : Nat → Nat → Timestamp) (script : List ReplayStep) : List Cue :=
  script.zipIdx.map fun e => ⟨e.1, clock e.2⟩

/-- A notifier has just been started on subscriptions to all categories. -/
def opening (config : Config) (clock : Nat → Nat → Timestamp) (script : List ReplayStep) : Performance where
  kinds := config.categories.eraseDups
  watch := .start (entries config) (channels config)
  stage := .replaying (cues clock script)

/-! ## What every step keeps -/

end Performance

namespace Stage

/-- The steps that have not been replayed yet. -/
def rest : Stage → List Cue
  | .replaying rest => rest
  | _ => []

/-- How far the station with a number has come. -/
def standing (i : Nat) : Stage → Standing
  | .replaying _ => .serving
  | .asking j => if i < j then .answered else .serving
  | .awaiting j => if i < j then .answered else if i = j then .asked else .serving
  | .dropping j => if i < j then .dropped else .answered
  | .waiting | .done => .dropped

end Stage

namespace Performance

/-- How far all stations have come. -/
def Stationed (config : Config) (played : List Cue) (standing : Nat → Standing) (courses : List Course) :
    Prop :=
  ∀ (i : Nat) kind c, config.categories.eraseDups[i]? = some kind → courses[i]? = some c →
    c.Stands kind.category (Companion.filterFor config kind) (played.filter (·.step.category == kind))
      (standing i)

/-- A performance that has come about from its opening. -/
structure Sound (config : Config) (script : List Cue) (p : Performance) : Prop where
  kinds : p.kinds = config.categories.eraseDups
  length : p.watch.courses.length = p.kinds.length
  stationed : ∃ played, played ++ p.stage.rest = script ∧
    Stationed config played p.stage.standing p.watch.courses
  carries : ∃ done out tagged, Watch.Carries (entries config) (channels config) p.watch done out tagged
  finished : p.stage = .done → p.watch.notifier.finished = true

section Stationed

variable {config : Config} {played played' : List Cue} {standing standing' : Nat → Standing}
  {courses : List Course}

/-- One station goes on, and nothing changes for the others. -/
theorem Stationed.act (h : Stationed config played standing courses) {i : Nat} {kind : CategoryKind}
    {c : Course} {a : Action} (hkind : config.categories.eraseDups[i]? = some kind)
    (hc : courses[i]? = some c)
    (hnew : (c.step a).Stands kind.category (Companion.filterFor config kind)
      (played'.filter (·.step.category == kind)) (standing' i))
    (hothers : ∀ j kind', j ≠ i → kind' ≠ kind → standing' j = standing j ∧
      played'.filter (·.step.category == kind') = played.filter (·.step.category == kind')) :
    Stationed config played' standing' (courses.modify i (·.step a)) := by
  intro j kind' c' hkind' hc'
  rw [List.getElem?_modify] at hc'
  by_cases hij : i = j
  · subst hij
    obtain rfl : c.step a = c' := by simpa [hc] using hc'
    obtain rfl := Option.some.inj (hkind.symm.trans hkind')
    exact hnew
  · have hc' : courses[j]? = some c' := by simpa [hij] using hc'
    -- No kind has two stations.
    have hne : kind' ≠ kind := by
      rintro rfl
      obtain ⟨hi, -⟩ := List.getElem?_eq_some_iff.1 hkind
      exact hij ((List.getElem?_inj hi (Companion.nodup_eraseDups _)).1 (hkind.trans hkind'.symm))
    obtain ⟨hstanding, hfilter⟩ := hothers j kind' (Ne.symm hij) hne
    rw [hstanding, hfilter]
    exact h j kind' c' hkind' hc'

theorem Stationed.touch (h : Stationed config played standing courses) (channel : ChannelRef)
    (f : Channel → Channel) : Stationed config played standing (touch courses channel f) := by
  intro i kind c hkind hc
  rw [getElem?_touch] at hc
  obtain ⟨c', hc', rfl⟩ := Option.map_eq_some_iff.1 hc
  have hstands := h i kind c' hkind hc'
  split
  · exact hstands.modifyChannel _ _
  · exact hstands

end Stationed

end Performance

/-! ## What is left to be done -/

/-- What is left to be done at a course: each command costs a turn of the worker and may lead to a change,
and each change costs a turn of its feed and one of the writer. -/
def Course.weight (c : Course) : Nat := 3 * c.queue.length + 2 * (c.channel? 0).elim 0 (·.waiting.length)

/-- What is left to be done by the main task, with what it causes. -/
def Stage.weight (n : Nat) : Stage → Nat
  | .replaying rest => 4 * rest.length + 6 * n + 5
  | .asking i => 5 * (n - i) + n + 4
  | .awaiting i => 5 * (n - (i + 1)) + n + 5
  | .dropping i => (n - i) + 2
  | .waiting => 1
  | .done => 0

/-- The main task has something to do at every stage but the last. -/
theorem Stage.weight_eq_zero {stage : Stage} {n : Nat} : stage.weight n = 0 ↔ stage = .done := by
  cases stage <;> simp [weight]

/-- What is left to be done for a notifier: initial states and changes in the pipe are written, feeds end, and
writing comes to its end. -/
def Notifier.weight (n : Notifier) : Nat :=
  n.initial.length + n.pipe.length + n.feeds.countP (!·.ended) + (!n.finished).toNat

theorem Course.Queues.weight {c c' : Course} {commands : List Command} (h : c.Queues commands c') :
    c'.weight = c.weight + 3 * commands.length := by
  rw [Course.weight, Course.weight, h.queue, Course.channel?, Course.channel?, h.registry,
    List.length_append]
  omega

/-- A worker that takes something leaves less to be done. -/
theorem Course.weight_process {c : Course} (hqueue : c.queue ≠ []) {ch : Channel}
    (hch : c.channel? 0 = some ch) (hreceiving : ch.receiving = true) (htaken : ch.taken ≤ ch.sent.length) :
    (c.step .process).weight < c.weight := by
  obtain ⟨command, rest, hcons⟩ := List.exists_cons_of_ne_nil hqueue
  have hrest : (c.step .process).queue = rest := by rw [step_process hcons]
  have hsent := (c.registry_step .process).channel hch hreceiving rfl
  have hchanges : (c.seen .process).changes.length ≤ 1 := by
    unfold Event.changes
    cases (c.seen .process).verdict? with
    | none => exact Nat.zero_le 1
    | some v => cases v <;> simp [Verdict.changes]
  rw [Course.weight, Course.weight, hrest, hcons, hch, channel?, hsent]
  simp only [Option.elim_some, Channel.waiting, List.length_drop, List.length_append, List.length_cons]
  omega

/-- A change that is taken from a channel does not wait any more. -/
theorem Course.weight_take {c : Course} {ch : Channel} (hch : c.channel? 0 = some ch)
    (hwaiting : ch.waiting ≠ []) :
    ({ c with station := c.station.modifyChannel 0 fun ch => { ch with taken := ch.taken + 1 } } :
      Course).weight + 2 = c.weight := by
  have hch' := Registry.getElem?_modifyChannel_self hch fun ch => { ch with taken := ch.taken + 1 }
  have hpos : 0 < (ch.sent.drop ch.taken).length := List.length_pos_iff.2 hwaiting
  rw [Course.weight, Course.weight, hch]
  show 3 * c.queue.length + 2 * Option.elim (c.registry.modifyChannel 0 _).channels[0]? 0 _ + 2 = _
  rw [hch']
  simp only [Option.elim_some, Channel.waiting, List.length_drop] at hpos ⊢
  omega

/-- What does not change how much waits in a channel leaves as much to be done. -/
theorem Course.weight_modifyChannel (c : Course) (number : Nat) {f : Channel → Channel}
    (hf : ∀ ch, (f ch).waiting = ch.waiting) :
    ({ c with station := c.station.modifyChannel number f } : Course).weight = c.weight := by
  have hchannel : (c.registry.modifyChannel number f).channels[0]?.elim 0 (·.waiting.length) =
      c.registry.channels[0]?.elim 0 (·.waiting.length) := by
    rw [Registry.modifyChannel, List.getElem?_modify]
    cases c.registry.channels[0]? with
    | none => rfl
    | some ch =>
      simp only [Option.map_eq_map, Option.map_some, Option.elim_some]
      split
      · rw [hf]
      · rfl
  exact congrArg (3 * c.queue.length + 2 * ·) hchannel

namespace Notifier

/-- What a feed does that has something to do: it takes a change, or it ends. -/
theorem forward_of_canForward {y : Fleet} {n : Notifier} {position : Nat}
    (h : canForward y n position = true) :
    ∃ feed, n.feeds[position]? = some feed ∧ feed.ended = false ∧
      ((∃ change rest, waiting y feed.channel = change :: rest ∧ forward y n position =
          (y.modifyChannel feed.channel fun ch => { ch with taken := ch.taken + 1 },
            { n with pipe := n.pipe ++ [change] })) ∨
        (waiting y feed.channel = [] ∧ isClosed y feed.channel = true ∧ forward y n position =
          (y, { n with feeds := n.feeds.set position { feed with ended := true } }))) := by
  unfold canForward at h
  unfold forward
  cases hfeed : n.feeds[position]? with
  | none => exact absurd h (by simp [hfeed])
  | some feed =>
    simp only [hfeed, Option.any_some, Bool.and_eq_true, Bool.not_eq_true', Bool.or_eq_true] at h
    obtain ⟨hended, hcan⟩ := h
    refine ⟨feed, rfl, hended, ?_⟩
    cases hwaiting : waiting y feed.channel with
    | cons change rest => exact .inl ⟨change, rest, rfl, by simp [hended, hwaiting]⟩
    | nil =>
      have hclosed : isClosed y feed.channel = true := by simpa [hwaiting] using hcan
      exact .inr ⟨rfl, hclosed, by simp [hended, hwaiting, hclosed]⟩

/-- What is written does not have to be written any more, and the end of writing stays. -/
theorem write_of_canWrite {n : Notifier} (h : n.canWrite = true) :
    (n.finished = true → n.write.finished = true) ∧ n.write.weight < n.weight := by
  obtain ⟨feeds, initial, pipe, written, finished⟩ := n
  unfold canWrite at h
  cases initial with
  | cons change rest =>
    simp only [write, weight, List.length_cons]
    exact ⟨id, by omega⟩
  | nil =>
    cases pipe with
    | cons change rest =>
      simp only [write, weight, List.length_cons]
      exact ⟨id, by omega⟩
    | nil =>
      -- Only the end of writing is left.
      obtain ⟨hall, rfl⟩ : feeds.all (·.ended) = true ∧ finished = false := by simpa using h
      simp [write, weight, hall]

end Notifier

namespace Performance

/-- What is left to be done by all tasks. -/
def rank (p : Performance) : Nat :=
  p.stage.weight p.kinds.length + (p.watch.courses.map Course.weight).sum + p.watch.notifier.weight

/-- What one course has left to do is part of the sum. -/
theorem sum_modify {courses : List Course} {i : Nat} {c : Course} (hc : courses[i]? = some c)
    (f : Course → Course) : ((courses.modify i f).map Course.weight).sum + c.weight =
      (courses.map Course.weight).sum + (f c).weight := by
  obtain ⟨hi, hget⟩ := List.getElem?_eq_some_iff.1 hc
  obtain ⟨before, c₀, after, hcourses, rfl, hmodify⟩ := List.exists_of_modify f hi
  obtain rfl : c₀ = c := by simpa [hcourses] using hget
  rw [hmodify, hcourses]
  simp only [List.map_append, List.map_cons, List.sum_append, List.sum_cons]
  omega

/-- A change that is taken from a channel does not wait any more. -/
theorem sum_touch {courses : List Course} {i : Nat} {change : Change} {rest : List Change}
    (hwaiting : Notifier.waiting (fleetOf courses) ⟨i, 0⟩ = change :: rest) :
    ((touch courses ⟨i, 0⟩ fun ch => { ch with taken := ch.taken + 1 }).map Course.weight).sum + 2 =
      (courses.map Course.weight).sum := by
  rw [Notifier.waiting, channel?_fleetOf] at hwaiting
  cases hc : courses[i]? with
  | none => exact absurd hwaiting (by simp [hc])
  | some c =>
    rw [hc, Option.bind_some] at hwaiting
    cases hch : c.channel? 0 with
    | none => exact absurd hwaiting (by simp [hch])
    | some ch =>
      -- Taking from the channel makes the course lighter, because something waits there.
      have hne : ch.waiting ≠ [] := by
        rw [hch] at hwaiting
        exact List.ne_nil_of_length_eq_add_one (congrArg List.length hwaiting)
      have hsum := sum_modify hc fun c =>
        { c with station := c.station.modifyChannel 0 fun ch => { ch with taken := ch.taken + 1 } }
      have hweight := Course.weight_take hch hne
      simp only [touch] at hsum ⊢
      omega

/-! ## One step -/

namespace Sound

variable {config : Config} {script : List Cue} {p : Performance}

/-- Something happens at a station. -/
theorem act (h : p.Sound config script) {i : Nat} {a : Action} {stage : Stage} {played : List Cue}
    (hcall : a.isCall = false) (htouches : a.touches 0 = false) (hplayed : played ++ stage.rest = script)
    (hstationed : Stationed config played stage.standing (p.watch.courses.modify i (·.step a)))
    (hfinished : stage = .done → p.watch.notifier.finished = true) :
    ({ p with watch := p.watch.move (.act i a), stage := stage } : Performance).Sound config script where
  kinds := h.kinds
  length := (List.length_modify ..).trans h.length
  stationed := ⟨played, hplayed, hstationed⟩
  carries := by
    obtain ⟨done, out, tagged, hcarries⟩ := h.carries
    refine ⟨done, out, tagged, hcarries.act fun feed hfeed _ => ⟨?_, fun _ => hcall⟩⟩
    -- All subscriptions are the first ones at their stations.
    have hchannel : feed.channel ∈ channels config := hcarries.feeds ▸ List.mem_map_of_mem hfeed
    obtain ⟨j, -, hj⟩ := List.mem_map.1 hchannel
    rw [← hj]
    exact htouches
  finished := hfinished

/-- The main task comes to another stage, and nothing else happens. -/
theorem stage (h : p.Sound config script) {stage : Stage} (hrest : stage.rest = p.stage.rest)
    (hstanding : ∀ played, Stationed config played p.stage.standing p.watch.courses →
      Stationed config played stage.standing p.watch.courses)
    (hfinished : stage = .done → p.watch.notifier.finished = true) :
    ({ p with stage := stage } : Performance).Sound config script where
  kinds := h.kinds
  length := h.length
  stationed := by
    obtain ⟨played, hplayed, hstationed⟩ := h.stationed
    exact ⟨played, by rw [hrest, hplayed], hstanding played hstationed⟩
  carries := h.carries
  finished := hfinished

theorem exists_course (h : p.Sound config script) {i : Nat} (hi : i < p.kinds.length) :
    ∃ kind c, config.categories.eraseDups[i]? = some kind ∧ p.watch.courses[i]? = some c := by
  have hi' : i < p.watch.courses.length := h.length ▸ hi
  rw [h.kinds] at hi
  exact ⟨_, _, List.getElem?_eq_getElem hi, List.getElem?_eq_getElem hi'⟩

/-- A step of the script is replayed. -/
theorem replay (h : p.Sound config script) {cue : Cue} {rest : List Cue}
    (hstage : p.stage = .replaying (cue :: rest)) :
    ({ p with watch := p.replay cue, stage := .replaying rest } : Performance).Sound config script ∧
      ({ p with watch := p.replay cue, stage := .replaying rest } : Performance).rank < p.rank := by
  obtain ⟨played, hplayed, hstationed⟩ := h.stationed
  rw [hstage] at hplayed hstationed
  have hplayed : (played ++ [cue]) ++ rest = script := by
    rw [List.append_assoc]
    exact hplayed
  have hother {kind : CategoryKind} (hne : kind ≠ cue.step.category) :
      (played ++ [cue]).filter (·.step.category == kind) = played.filter (·.step.category == kind) := by
    simp [Ne.symm hne]
  cases hposition : p.kinds.idxOf? cue.step.category with
  | none =>
    -- The category is not enabled, so the step belongs to no station's part of the script.
    have hreplay : p.replay cue = p.watch := by
      rw [Performance.replay, hposition]
      rfl
    rw [hreplay]
    refine ⟨⟨h.kinds, h.length, ⟨played ++ [cue], hplayed, ?_⟩, h.carries, nofun⟩, ?_⟩
    · intro i kind c hkind hc
      have hne : kind ≠ cue.step.category := by
        rintro rfl
        rw [h.kinds] at hposition
        exact List.idxOf?_eq_none_iff.1 hposition (List.mem_of_getElem? hkind)
      rw [hother hne]
      exact hstationed i kind c hkind hc
    · simp only [rank, hstage, Stage.weight, List.length_cons]
      omega
  | some i =>
    obtain ⟨hi, hcategory, -⟩ := List.idxOf?_eq_some_iff.1 hposition
    obtain ⟨kind, c, hkind, hc⟩ := h.exists_course hi
    have hcategory : cue.step.category = kind := by
      rw [← hcategory]
      refine Option.some.inj ?_
      rw [← hkind, ← h.kinds, List.getElem?_eq_getElem hi]
    have hreplay : p.replay cue = p.watch.move (.act i (cue.step.action cue.now c.station)) := by
      rw [Performance.replay, hposition, Option.bind_some, hc]
      rfl
    obtain ⟨hcall, htouches⟩ := cue.step.action_spec cue.now c.station
    obtain ⟨hstands, command, hqueues⟩ := (hstationed i kind c hkind hc).replay cue
    rw [hreplay]
    refine ⟨h.act hcall htouches hplayed (hstationed.act hkind hc ?_ fun j kind' _ hne => ?_) nofun, ?_⟩
    · rw [List.filter_append, List.filter_singleton, hcategory, beq_self_eq_true]
      exact hstands
    · exact ⟨rfl, hother (hcategory ▸ hne)⟩
    · -- One step less is to be replayed, and one command more waits.
      have hsum := sum_modify hc (·.step (cue.step.action cue.now c.station))
      have hweight := hqueues.weight
      simp only [rank, hstage, Stage.weight, List.length_cons, Watch.move, List.length_nil] at hsum hweight ⊢
      omega

/-- A station is asked for its targets. -/
theorem ask (h : p.Sound config script) {i : Nat} (hstage : p.stage = .asking i) (hi : i < p.kinds.length) :
    ({ p with watch := p.watch.move (.act i (.ask .list)), stage := .awaiting i } :
      Performance).Sound config script ∧
    ({ p with watch := p.watch.move (.act i (.ask .list)), stage := .awaiting i } :
      Performance).rank < p.rank := by
  obtain ⟨played, hplayed, hstationed⟩ := h.stationed
  obtain ⟨kind, c, hkind, hc⟩ := h.exists_course hi
  rw [hstage] at hplayed hstationed
  -- The station whose turn it is has been serving, and the others stay what they are.
  have hserving : c.Stands kind.category (Companion.filterFor config kind)
      (played.filter (·.step.category == kind)) .serving := by
    simpa [Stage.standing] using hstationed i kind c hkind hc
  obtain ⟨hstands, hqueues⟩ := hserving.ask
  refine ⟨h.act rfl rfl hplayed (hstationed.act hkind hc ?_ fun j kind' hj _ => ⟨?_, rfl⟩) nofun, ?_⟩
  · simpa [Stage.standing] using hstands
  · simp [Stage.standing, hj]
  · -- One station fewer is to be asked, and one question more waits.
    have hsum := sum_modify hc (·.step (.ask .list))
    have hweight := hqueues.weight
    simp only [rank, hstage, Stage.weight, Watch.move, List.length_singleton] at hsum hweight ⊢
    omega

/-- The manager of a station is dropped. -/
theorem drop (h : p.Sound config script) {i : Nat} (hstage : p.stage = .dropping i)
    (hi : i < p.kinds.length) :
    ({ p with watch := p.watch.move (.act i .drop), stage := .dropping (i + 1) } :
      Performance).Sound config script ∧
    ({ p with watch := p.watch.move (.act i .drop), stage := .dropping (i + 1) } :
      Performance).rank < p.rank := by
  obtain ⟨played, hplayed, hstationed⟩ := h.stationed
  obtain ⟨kind, c, hkind, hc⟩ := h.exists_course hi
  rw [hstage] at hplayed hstationed
  -- Every station has answered by now.
  have hanswered : c.Stands kind.category (Companion.filterFor config kind)
      (played.filter (·.step.category == kind)) .answered := by
    simpa [Stage.standing] using hstationed i kind c hkind hc
  obtain ⟨hstands, hqueues⟩ := hanswered.drop
  refine ⟨h.act rfl rfl hplayed (hstationed.act hkind hc ?_ fun j kind' hj _ => ⟨?_, rfl⟩) nofun, ?_⟩
  · simpa [Stage.standing] using hstands
  · have hlt : j < i + 1 ↔ j < i := by omega
    simp only [Stage.standing, hlt]
  · -- One station fewer is to be dropped, and nothing more waits.
    have hsum := sum_modify hc (·.step .drop)
    have hweight := hqueues.weight
    simp only [rank, hstage, Stage.weight, Watch.move, List.length_nil] at hsum hweight ⊢
    omega

/-- The main task does something. -/
theorem main (h : p.Sound config script) {p' : Performance} (hmain : p.main = some p') :
    p'.Sound config script ∧ p'.rank < p.rank := by
  unfold Performance.main at hmain
  cases hstage : p.stage with
  | replaying rest =>
    cases rest with
    | nil =>
      obtain rfl : _ = p' := by simpa [hstage] using hmain
      refine ⟨h.stage (by rw [hstage]; rfl) (fun played hstationed => ?_) nofun, ?_⟩
      · rw [hstage] at hstationed
        intro i kind c hkind hc
        simpa [Stage.standing] using hstationed i kind c hkind hc
      · simp only [rank, hstage, Stage.weight, List.length_nil]
        omega
    | cons cue rest =>
      obtain rfl : _ = p' := by simpa [hstage] using hmain
      exact h.replay hstage
  | asking i =>
    by_cases hi : i < p.kinds.length
    · obtain rfl : _ = p' := by simpa [hstage, hi] using hmain
      exact h.ask hstage hi
    · -- All stations have answered.
      obtain rfl : _ = p' := by simpa [hstage, hi] using hmain
      refine ⟨h.stage (by rw [hstage]; rfl) (fun played hstationed => ?_) nofun, ?_⟩
      · rw [hstage] at hstationed
        intro j kind c hkind hc
        obtain ⟨hj, -⟩ := List.getElem?_eq_some_iff.1 hc
        have hj : j < i := by rw [h.length] at hj; omega
        simpa [Stage.standing, hj] using hstationed j kind c hkind hc
      · simp only [rank, hstage, Stage.weight]
        omega
  | awaiting i =>
    rw [hstage] at hmain
    dsimp only at hmain
    split at hmain
    · exact nomatch hmain
    · rename_i hgone
      obtain rfl := Option.some.inj hmain
      refine ⟨h.stage (by rw [hstage]; rfl) (fun played hstationed => ?_) nofun, ?_⟩
      · rw [hstage] at hstationed
        intro j kind c hkind hc
        have hstands := hstationed j kind c hkind hc
        by_cases hj : i = j
        · -- The question has been taken, and with it all that waited before it.
          subst hj
          have hgone : .query .list ∉ c.queue := by simpa [hc] using hgone
          simp only [Stage.standing, Nat.lt_irrefl, if_false, if_true] at hstands
          simpa [Stage.standing] using hstands.answered hgone
        · have hlt : j < i + 1 ↔ j < i := by omega
          simpa [Stage.standing, hlt, Ne.symm hj] using hstands
      · simp only [rank, hstage, Stage.weight]
        omega
  | dropping i =>
    by_cases hi : i < p.kinds.length
    · obtain rfl : _ = p' := by simpa [hstage, hi] using hmain
      exact h.drop hstage hi
    · -- All managers have been dropped.
      obtain rfl : _ = p' := by simpa [hstage, hi] using hmain
      refine ⟨h.stage (by rw [hstage]; rfl) (fun played hstationed => ?_) nofun, ?_⟩
      · rw [hstage] at hstationed
        intro j kind c hkind hc
        obtain ⟨hj, -⟩ := List.getElem?_eq_some_iff.1 hc
        have hj : j < i := by rw [h.length] at hj; omega
        simpa [Stage.standing, hj] using hstationed j kind c hkind hc
      · simp only [rank, hstage, Stage.weight]
        omega
  | waiting =>
    by_cases hfinished : p.watch.notifier.finished = true
    · obtain rfl : _ = p' := by simpa [hstage, hfinished] using hmain
      refine ⟨h.stage (by rw [hstage]; rfl) (fun played hstationed => ?_) fun _ => hfinished, ?_⟩
      · rw [hstage] at hstationed
        exact hstationed
      · simp only [rank, hstage, Stage.weight]
        omega
    · exact absurd hmain (by simp [hstage, hfinished])
  | done => exact absurd hmain (by simp [hstage])

/-- Every course has one subscriber, who has a feed. -/
theorem exists_channel (h : p.Sound config script) {i : Nat} {c : Course}
    (hc : p.watch.courses[i]? = some c) :
    ∃ ch, c.channel? 0 = some ch ∧ ch.receiving = true ∧ ch.taken ≤ ch.sent.length := by
  obtain ⟨done, out, tagged, hcarries⟩ := h.carries
  obtain ⟨hi, -⟩ := List.getElem?_eq_some_iff.1 hc
  have hchannel : (channels config)[i]? = some ⟨i, 0⟩ := by
    rw [h.length, h.kinds] at hi
    simp [channels, hi]
  rw [← hcarries.feeds, List.getElem?_map] at hchannel
  obtain ⟨feed, hfeed, heq⟩ := Option.map_eq_some_iff.1 hchannel
  obtain ⟨ch, hch, hreceiving, htaken⟩ := (hcarries.flow i feed hfeed).channel
  rw [heq, channel?_fleetOf, hc, Option.bind_some] at hch
  exact ⟨ch, hch, hreceiving, htaken⟩

/-- A worker takes what has waited longest. -/
theorem worker (h : p.Sound config script) {i : Nat} {c : Course} (hc : p.watch.courses[i]? = some c)
    (hqueue : c.queue ≠ []) :
    ({ p with watch := p.watch.move (.act i .process) } : Performance).Sound config script ∧
      ({ p with watch := p.watch.move (.act i .process) } : Performance).rank < p.rank := by
  obtain ⟨played, hplayed, hstationed⟩ := h.stationed
  obtain ⟨hi, -⟩ := List.getElem?_eq_some_iff.1 hc
  obtain ⟨kind, c', hkind, hc'⟩ := h.exists_course (h.length ▸ hi)
  obtain rfl := Option.some.inj (hc.symm.trans hc')
  have hstands := hstationed i kind c hkind hc
  have hstationed' := hstationed.act hkind hc hstands.process fun _ _ _ _ => ⟨rfl, rfl⟩
  refine ⟨h.act rfl rfl hplayed hstationed' h.finished, ?_⟩
  -- The command has led to one change at most, which costs two turns.
  obtain ⟨ch, hch, hreceiving, htaken⟩ := h.exists_channel hc
  have hsum := sum_modify hc (·.step .process)
  have hweight := Course.weight_process hqueue hch hreceiving htaken
  simp only [rank, Watch.move] at hsum hweight ⊢
  omega

/-- A feed takes the change that has waited longest, or it ends. -/
theorem feed (h : p.Sound config script) {position : Nat}
    (hcan : Notifier.canForward p.watch.fleet p.watch.notifier position = true) :
    ({ p with watch := p.watch.move (.forward position) } : Performance).Sound config script ∧
      ({ p with watch := p.watch.move (.forward position) } : Performance).rank < p.rank := by
  obtain ⟨played, hplayed, hstationed⟩ := h.stationed
  obtain ⟨done, out, tagged, hcarries⟩ := h.carries
  obtain ⟨feed, hfeed, hended, ⟨change, rest, hwaiting, hforward⟩ | ⟨hwaiting, hclosed, hforward⟩⟩ :=
    Notifier.forward_of_canForward hcan
  · have hmove : p.watch.move (.forward position) =
        ⟨touch p.watch.courses feed.channel fun ch => { ch with taken := ch.taken + 1 },
          { p.watch.notifier with pipe := p.watch.notifier.pipe ++ [change] }⟩ := by
      rw [Watch.move_forward, hforward, Watch.adopt_modifyChannel]
    rw [hmove]
    refine ⟨⟨h.kinds, (List.length_modify ..).trans h.length, ⟨played, hplayed, hstationed.touch _ _⟩,
      ⟨_, _, _, hcarries.take (nodup_channels config) hfeed hended hwaiting⟩, h.finished⟩, ?_⟩
    have hchannel : feed.channel ∈ channels config :=
      hcarries.feeds ▸ List.mem_map_of_mem (List.mem_of_getElem? hfeed)
    obtain ⟨i, -, hi⟩ := List.mem_map.1 hchannel
    rw [← hi] at hwaiting ⊢
    -- A change that waited for its feed and for the writer waits only for the writer now.
    have hsum := sum_touch hwaiting
    simp only [rank, Notifier.weight, List.length_append, List.length_singleton]
    omega
  · have hmove : p.watch.move (.forward position) = ⟨p.watch.courses, { p.watch.notifier with
        feeds := p.watch.notifier.feeds.set position { feed with ended := true } }⟩ := by
      rw [Watch.move_forward, hforward, Watch.adopt_fleet]
    rw [hmove]
    refine ⟨⟨h.kinds, h.length, ⟨played, hplayed, hstationed⟩,
      ⟨_, _, _, hcarries.close hfeed hended hwaiting hclosed⟩, h.finished⟩, ?_⟩
    obtain ⟨hlt, hget⟩ := List.getElem?_eq_some_iff.1 hfeed
    have hcount := List.countP_set (p := fun feed : Feed => !feed.ended) (a := { feed with ended := true })
      hlt
    have hpos : 0 < p.watch.notifier.feeds.countP (!·.ended) :=
      List.countP_pos_iff.2 ⟨feed, List.mem_of_getElem? hfeed, by rw [hended]; rfl⟩
    simp only [hget, hended, Bool.not_false, Bool.not_true, if_true, Bool.false_eq_true, if_false] at hcount
    simp only [rank, Notifier.weight]
    omega

/-- Something is written, or the end of writing has come. -/
theorem writer (h : p.Sound config script) (hcan : p.watch.notifier.canWrite = true) :
    ({ p with watch := p.watch.move .write } : Performance).Sound config script ∧
      ({ p with watch := p.watch.move .write } : Performance).rank < p.rank := by
  obtain ⟨done, out, tagged, hcarries⟩ := h.carries
  obtain ⟨done', out', hwrite⟩ := hcarries.write
  obtain ⟨hfinished, hweight⟩ := Notifier.write_of_canWrite hcan
  refine ⟨⟨h.kinds, h.length, h.stationed, ⟨_, _, _, hwrite⟩, fun hdone => hfinished (h.finished hdone)⟩, ?_⟩
  simp only [rank, Watch.move] at hweight ⊢
  omega

/-- A task does something. -/
theorem step (h : p.Sound config script) {task : Task} {p' : Performance} (hstep : p.step task = some p') :
    p'.Sound config script ∧ p'.rank < p.rank := by
  cases task with
  | main => exact h.main hstep
  | worker i =>
    -- A task has a turn only where it can do something.
    obtain ⟨hcan, hnext⟩ := Option.ite_none_right_eq_some.1 hstep
    obtain rfl := Option.some.inj hnext
    cases hc : p.watch.courses[i]? with
    | none => exact absurd hcan (by simp [hc])
    | some c => exact h.worker hc (by simpa [hc] using hcan)
  | feed position =>
    obtain ⟨hcan, hnext⟩ := Option.ite_none_right_eq_some.1 hstep
    obtain rfl := Option.some.inj hnext
    exact h.feed hcan
  | writer =>
    obtain ⟨hcan, hnext⟩ := Option.ite_none_right_eq_some.1 hstep
    obtain rfl := Option.some.inj hnext
    exact h.writer hcan

end Sound

/-! ## Runs -/

variable {config : Config} {script : List Cue} {p p' : Performance}

/-- A run keeps everything sound, and it is no longer than what there is to be done. -/
theorem Sound.run (h : p.Sound config script) {tasks : List Task} (hrun : p.run tasks = some p') :
    p'.Sound config script ∧ tasks.length + p'.rank ≤ p.rank := by
  induction tasks generalizing p with
  | nil =>
    obtain rfl : p = p' := Option.some.inj hrun
    exact ⟨h, by simp⟩
  | cons task tasks ih =>
    rw [Performance.run, List.foldlM_cons] at hrun
    obtain ⟨next, hstep, hrest⟩ := Option.bind_eq_some_iff.1 hrun
    obtain ⟨hnext, hrank⟩ := h.step hstep
    obtain ⟨hp', hlater⟩ := ih hnext hrest
    refine ⟨hp', ?_⟩
    rw [List.length_cons]
    omega

/-- A station whose manager has been dropped is silent. -/
theorem silent_of_dropped {category : Category} {filter : Option Identifier} {cues : List Cue} {c : Course}
    (h : c.Stands category filter cues .dropped) : c.station.Silent := by
  obtain ⟨taken, waiting, question, -, -, -, hqueue, rfl, rfl⟩ := h.caused
  exact ⟨hqueue, .inr (h.given_up rfl)⟩

/-- Once all managers have been dropped, a feed that has not ended has something to do. -/
theorem Sound.canForward (h : p.Sound config script) (hstanding : ∀ i, p.stage.standing i = .dropped)
    {position : Nat} {feed : Feed} (hfeed : p.watch.notifier.feeds[position]? = some feed)
    (hended : feed.ended = false) :
    Notifier.canForward p.watch.fleet p.watch.notifier position = true := by
  obtain ⟨played, -, hstationed⟩ := h.stationed
  obtain ⟨done, out, tagged, hcarries⟩ := h.carries
  have hchannel : feed.channel ∈ channels config :=
    hcarries.feeds ▸ List.mem_map_of_mem (List.mem_of_getElem? hfeed)
  obtain ⟨i, hi, heq⟩ := List.mem_map.1 hchannel
  obtain ⟨kind, c, hkind, hc⟩ := h.exists_course (h.kinds ▸ List.mem_range.1 hi)
  have hdropped := hstationed i kind c hkind hc
  simp only [hstanding] at hdropped
  -- Its stream has come to its end, whether changes still wait in it or not.
  have hclosed : Notifier.isClosed p.watch.fleet feed.channel = true :=
    (hcarries.since.isClosed_iff (by rw [← heq]; exact hc)).2 (silent_of_dropped hdropped)
  simp [Notifier.canForward, hfeed, hended, hclosed]

/-- As long as the end has not come, some task has something to do. -/
theorem Sound.exists_step (h : p.Sound config script) (hstage : p.stage ≠ .done) :
    ∃ task, (p.step task).isSome := by
  cases hat : p.stage with
  | replaying rest =>
    refine ⟨.main, ?_⟩
    cases rest <;> simp [Performance.step, Performance.main, hat]
  | asking i | dropping i =>
    refine ⟨.main, ?_⟩
    by_cases hi : i < p.kinds.length <;> simp [Performance.step, Performance.main, hat, hi]
  | awaiting i =>
    by_cases hwaits : p.watch.courses[i]?.any (·.queue.contains (.query .list)) = true
    · -- The question is still to be answered.
      refine ⟨.worker i, ?_⟩
      cases hc : p.watch.courses[i]? with
      | none => exact absurd hwaits (by simp [hc])
      | some c =>
        have hmem : .query .list ∈ c.queue := by simpa [hc] using hwaits
        simp [Performance.step, hc, List.ne_nil_of_mem hmem]
    · exact ⟨.main, by simp only [Performance.step, Performance.main, hat, if_neg hwaits, Option.isSome_some]⟩
  | waiting =>
    by_cases hfinished : p.watch.notifier.finished = true
    · exact ⟨.main, by simp [Performance.step, Performance.main, hat, hfinished]⟩
    by_cases hall : p.watch.notifier.feeds.all (·.ended) = true
    · have hcan : p.watch.notifier.canWrite = true := by
        simp [Notifier.canWrite, hall, hfinished]
      exact ⟨.writer, by simp [Performance.step, hcan]⟩
    · obtain ⟨feed, hmem, hended⟩ : ∃ feed ∈ p.watch.notifier.feeds, feed.ended = false := by
        simpa using hall
      obtain ⟨position, hfeed⟩ := List.getElem?_of_mem hmem
      have hcan := h.canForward (fun i => by rw [hat]; rfl) hfeed hended
      exact ⟨.feed position, by simp [Performance.step, hcan]⟩
  | done => exact absurd hat hstage

/-- At the end nobody has anything to do. -/
theorem Sound.step_done (h : p.Sound config script) (hstage : p.stage = .done) (task : Task) :
    p.step task = none := by
  obtain ⟨done, out, tagged, hcarries⟩ := h.carries
  -- Writing has come to its end, so all feeds have ended and nothing is left to be written.
  obtain ⟨hfeeds, hinitial, hpipe⟩ := hcarries.finished (h.finished hstage)
  cases task with
  | main => simp only [Performance.step, Performance.main, hstage]
  | worker i =>
    obtain ⟨played, -, hstationed⟩ := h.stationed
    cases hc : p.watch.courses[i]? with
    | none => simp [Performance.step, hc]
    | some c =>
      obtain ⟨hi, -⟩ := List.getElem?_eq_some_iff.1 hc
      obtain ⟨kind, c', hkind, hc'⟩ := h.exists_course (h.length ▸ hi)
      obtain rfl := Option.some.inj (hc.symm.trans hc')
      have hstands := hstationed i kind c hkind hc
      rw [hstage] at hstands
      simp [Performance.step, hc, (silent_of_dropped hstands).queue]
  | feed position =>
    cases hfeed : p.watch.notifier.feeds[position]? with
    | none => simp [Performance.step, Notifier.canForward, hfeed]
    | some feed =>
      have hended := hfeeds feed (List.mem_of_getElem? hfeed)
      simp [Performance.step, Notifier.canForward, hfeed, hended]
  | writer =>
    have hcan : p.watch.notifier.canWrite = false := by
      simp [Notifier.canWrite, hinitial, hpipe, h.finished hstage]
    simp [Performance.step, hcan]

/-- What the managers publish when they take in everything that a script causes, category by category. -/
def parts (config : Config) (script : List Cue) : List (List Change) :=
  config.categories.eraseDups.map fun kind =>
    (Registry.new kind.category (Companion.filterFor config kind)).changes
      (notifications (script.filter (·.step.category == kind)))

/-- At the end everything has been written. -/
theorem Sound.merged (h : p.Sound config script) (hstage : p.stage = .done) :
    IsMerge (parts config script) p.watch.notifier.written := by
  obtain ⟨played, hplayed, hstationed⟩ := h.stationed
  obtain ⟨done, out, tagged, hcarries⟩ := h.carries
  rw [hstage] at hplayed hstationed
  obtain rfl : played = script := (List.append_nil played).symm.trans hplayed
  obtain ⟨hdone, -, hmerge⟩ := hcarries.wrote.finished (h.finished hstage)
  have hwritten : p.watch.notifier.written = out := by
    rw [hcarries.written, hdone, initials_entries, List.nil_append]
  have hstreams : (channels config).map (stream (entries config) p.watch.courses) =
      parts config played := by
    -- Nothing waits at any station, so its worker has taken all that the script has caused there.
    refine List.ext_getElem (by simp [channels, parts]) fun i hi hi' => ?_
    have hi : i < p.kinds.length := by rw [h.kinds]; simpa [parts] using hi'
    obtain ⟨kind, c, hkind, hc⟩ := h.exists_course hi
    obtain ⟨taken, waiting, question, hcaused, -, hpublished, -, rfl, rfl⟩ :=
      (hstationed i kind c hkind hc).caused
    obtain ⟨_, hget⟩ := List.getElem?_eq_some_iff.1 hkind
    rw [List.append_nil] at hcaused
    simp only [channels, parts, List.getElem_map, List.getElem_range, hget]
    rw [stream, publishedSince, Notifier.waiting, channel?_fleetOf, getElem?_entries, hkind, hc, ← hcaused,
      ← hpublished]
    rfl
  rw [hwritten, ← hstreams]
  exact hmerge

/-! ## The beginning of a run -/

/-- At first nothing waits at a station, and nothing has been published. -/
theorem stands_entry (config : Config) (kind : CategoryKind) :
    (entry config kind).Stands kind.category (Companion.filterFor config kind) [] .serving where
  running := rfl
  listens _ := ⟨⟨_, rfl, rfl⟩, rfl, rfl, fun _ => rfl⟩
  given_up := nofun
  caused := ⟨[], [], [], rfl, rfl, rfl, rfl, rfl⟩

theorem subscribed_entries (config : Config) : Subscribed (entries config) (channels config) where
  distinct := nodup_channels config
  reached course hcourse := by
    obtain ⟨kind, -, rfl⟩ := List.mem_map.1 hcourse
    exact ⟨_, _, rfl⟩
  receiving channel hchannel := by
    obtain ⟨i, hi, rfl⟩ := List.mem_map.1 hchannel
    have hentry := getElem?_entries config i
    rw [List.getElem?_eq_getElem (List.mem_range.1 hi), Option.map_some] at hentry
    rw [channel?_fleetOf, hentry]
    exact ⟨_, rfl, rfl⟩

theorem sound_opening (config : Config) (clock : Nat → Nat → Timestamp) (script : List ReplayStep) :
    (opening config clock script).Sound config (cues clock script) where
  kinds := rfl
  length := by
    show (Watch.start (entries config) (channels config)).courses.length = _
    rw [Watch.courses_start]
    refine Watch.takeInitials_induction (P := fun courses => courses.length = _) ?_ (fun courses c h => ?_) _
    · exact List.length_map ..
    · exact (List.length_modify ..).trans h
  stationed := by
    refine ⟨[], rfl, ?_⟩
    show Stationed config [] (fun _ => .serving) (Watch.start (entries config) (channels config)).courses
    rw [Watch.courses_start]
    -- Taking the initial states out of the channels is nothing that a station notices.
    refine Watch.takeInitials_induction (P := Stationed config [] fun _ => .serving) ?_
      (fun courses c h => h.touch c _) _
    intro i kind c hkind hc
    rw [getElem?_entries, hkind] at hc
    obtain rfl := Option.some.inj hc
    exact stands_entry config kind
  carries := ⟨_, _, _, Watch.carries_start (subscribed_entries config)⟩
  finished := nofun

/-- What there is to be done at first. -/
theorem rank_opening (config : Config) (clock : Nat → Nat → Timestamp) (script : List ReplayStep) :
    (opening config clock script).rank =
      4 * script.length + 7 * config.categories.eraseDups.length + 6 := by
  -- Nothing is done at the courses yet, and taking their initial states does not change that.
  have hcourses : ∀ c ∈ (Watch.start (entries config) (channels config)).courses, c.weight = 0 := by
    rw [Watch.courses_start]
    refine Watch.takeInitials_induction (P := fun courses => ∀ c ∈ courses, c.weight = 0) ?_ ?_ _
    · intro c hc
      obtain ⟨kind, -, rfl⟩ := List.mem_map.1 hc
      rfl
    · intro courses channel h c hc
      obtain ⟨i, hi⟩ := List.getElem?_of_mem hc
      rw [getElem?_touch] at hi
      obtain ⟨c', hc', rfl⟩ := Option.map_eq_some_iff.1 hi
      have hweight := h c' (List.mem_of_getElem? hc')
      split
      · rw [← hweight]
        exact c'.weight_modifyChannel channel.number fun _ => rfl
      · exact hweight
  have hsum : ((opening config clock script).watch.courses.map Course.weight).sum = 0 := by
    refine List.sum_eq_zero fun n hn => ?_
    obtain ⟨c, hc, rfl⟩ := List.mem_map.1 hn
    exact hcourses c hc
  have hnotifier : (opening config clock script).watch.notifier.weight =
      config.categories.eraseDups.length + 1 := by
    show (initials (entries config) (channels config)).length + 0 +
      ((channels config).map fun c => (⟨c, false⟩ : Feed)).countP (!·.ended) + 1 = _
    rw [initials_entries, List.countP_map]
    simp [channels, Function.comp_def]
  rw [rank, hsum, hnotifier]
  simp only [opening, cues, Stage.weight, List.length_map, List.length_zipIdx]
  omega

end Performance

end DeviceRoster
