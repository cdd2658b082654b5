import DeviceRoster.Proofs.Listing
import DeviceRoster.Proofs.Rejection

/-!
# What sinks are told

Sinks are registered with a backend through a bridge, and devices come and go at the backend.  From the
moment of its registration until its number is unregistered, a sink is told of every device that is
attached, of every device that is detached, as it was attached last, and of every code that is emitted and
means something; first of all it is told of the devices that are attached already.  Nobody is told anything
else, and whatever is told is told to all sinks in the order of their registrations.

All this is said of the uses of the backend alone: `Use.lastHandle` finds the attached devices in them,
`Use.Installed` the sinks, and `Use.told` what there is to tell.

## Key results

- `Exchange.reflects_serve`: which devices and which sinks there are after some uses
- `Exchange.Reflects.heard`: who is told what by a single use
- `Exchange.Reflects.toldTo_hear`: what an installed sink is told from then on
- `Exchange.told_exactly`: what a sink is told, from its registration to its end
-/

namespace DeviceRoster

/-! ## Uses -/

namespace Use

def isRegister : Use → Bool
  | .register => true
  | _ => false

/-- Whether an answer is prescribed, which no backend does of itself. -/
def isPrescribe : Use → Bool
  | .prescribe _ => true
  | _ => false

/-- Whether the callback under a number is removed. -/
def removes (id : Int) : Use → Bool
  | .unregister id' => id' == id
  | _ => false

/-- Whether a device is attached or detached. -/
def moves (id : Identifier) : Use → Bool
  | .attach handle => handle.identifier == id
  | .detach id' => id' == id
  | _ => false

def attaches? : Use → Option Handle
  | .attach handle => some handle
  | _ => none

/-- The handle with which a device is attached after some uses, if it is: that of its last attachment,
unless it has been detached since. -/
def lastHandle (uses : List Use) (id : Identifier) : Option Handle :=
  (uses.filter (·.moves id)).getLast?.bind attaches?

/-- What a use tells after some earlier ones, if it tells anything. -/
def signal? (earlier : List Use) : Use → Option Signal
  | .attach handle => some ⟨.connected, handle⟩
  | .detach id => (lastHandle earlier id).map (⟨.disconnected, ·⟩)
  | .emit handle code =>
    if code = 1 then some ⟨.connected, handle⟩
    else if code = 2 then some ⟨.disconnected, handle⟩
    else none
  | .register | .unregister _ | .prescribe _ => none

/-- What some uses tell after some earlier ones. -/
def told (earlier : List Use) : List Use → List Signal
  | [] => []
  | use :: rest => (use.signal? earlier).toList ++ told (earlier ++ [use]) rest

/-- The sink with a number is installed after some uses: it has been registered, and its callback has not
been removed since.  The sinks are numbered from zero, and the backend numbers their callbacks from
`first`. -/
def Installed (first : Int) (uses : List Use) (k : Nat) : Prop :=
  ∃ before use after, uses = before ++ use :: after ∧ use = .register ∧
    k = before.countP isRegister ∧ ∀ use' ∈ after, use'.removes (first + k) = false

theorem lastHandle_concat (uses : List Use) (use : Use) (id : Identifier) :
    lastHandle (uses ++ [use]) id = if use.moves id then use.attaches? else lastHandle uses id := by
  rw [lastHandle, List.filter_append]
  by_cases h : use.moves id
  · simp [h]
  · simp [h, lastHandle]

/-- A device is attached under its own identifier. -/
theorem identifier_of_lastHandle {uses : List Use} {id : Identifier} {handle : Handle}
    (h : lastHandle uses id = some handle) : handle.identifier = id := by
  obtain ⟨use, hlast, hattaches⟩ := Option.bind_eq_some_iff.1 h
  have hmoves : use.moves id = true := (List.mem_filter.1 (List.mem_of_getLast? hlast)).2
  cases use with
  | attach handle' =>
    cases hattaches
    simpa [moves] using hmoves
  | register | unregister | detach | emit | prescribe => exact nomatch hattaches

theorem installed_concat {first : Int} {uses : List Use} {use : Use} {k : Nat} :
    Installed first (uses ++ [use]) k ↔
      (use = .register ∧ k = uses.countP isRegister) ∨
      (use.removes (first + k) = false ∧ Installed first uses k) := by
  rw [Installed, exists_split_concat]
  constructor
  · rintro (⟨huse, hk, -⟩ | ⟨before, use', after, rfl, huse', hk, hafter⟩)
    · exact .inl ⟨huse, hk⟩
    · obtain ⟨hafter, hlast⟩ := List.forall_mem_append.1 hafter
      exact .inr ⟨hlast use List.mem_cons_self, before, use', after, rfl, huse', hk, hafter⟩
  · rintro (⟨huse, hk⟩ | ⟨hlast, before, use', after, rfl, huse', hk, hafter⟩)
    · exact .inl ⟨huse, hk, nofun⟩
    · refine .inr ⟨before, use', after, rfl, huse', hk, ?_⟩
      refine List.forall_mem_append.2 ⟨hafter, fun use' huse => ?_⟩
      rw [List.mem_singleton.1 huse]
      exact hlast

/-- Whoever is installed has been registered. -/
theorem Installed.lt {first : Int} {uses : List Use} {k : Nat} (h : Installed first uses k) :
    k < uses.countP isRegister := by
  obtain ⟨before, _, after, rfl, rfl, rfl, -⟩ := h
  rw [List.countP_append, List.countP_cons_of_pos rfl]
  omega

/-- Two sequences of uses after which the devices are the same, and which mean the same to one sink. -/
structure Alike (first : Int) (k : Nat) (uses uses' : List Use) : Prop where
  registered : uses.countP isRegister = uses'.countP isRegister
  lastHandle : ∀ id, lastHandle uses id = lastHandle uses' id
  installed : Installed first uses k ↔ Installed first uses' k

namespace Alike

variable {first : Int} {k : Nat} {uses uses' : List Use}

theorem signal? (h : Alike first k uses uses') (use : Use) : use.signal? uses = use.signal? uses' := by
  cases use with
  | detach id => rw [Use.signal?, Use.signal?, h.lastHandle]
  | register | unregister | attach | emit | prescribe => rfl

theorem concat (h : Alike first k uses uses') (use : Use) :
    Alike first k (uses ++ [use]) (uses' ++ [use]) where
  registered := by rw [List.countP_append, List.countP_append, h.registered]
  lastHandle id := by rw [lastHandle_concat, lastHandle_concat, h.lastHandle]
  installed := by rw [installed_concat, installed_concat, h.registered, h.installed]

/-- Removing a callback means nothing to any other sink. -/
theorem unregister {id : Int} (hid : id ≠ first + k) (uses : List Use) :
    Alike first k (uses ++ [.unregister id]) uses where
  registered := by
    rw [List.countP_append]
    rfl
  lastHandle _ := lastHandle_concat uses (.unregister id) _
  installed := by
    rw [installed_concat, removes, beq_eq_false_iff_ne]
    simp [hid]

end Alike

end Use

/-- The handles are those of the devices that are attached after some uses, by ascending identifier. -/
structure Enumerates (uses : List Use) (handles : List Handle) : Prop where
  ascending : handles.Pairwise fun a b => compare a.identifier b.identifier = .lt
  mem_iff : ∀ handle, handle ∈ handles ↔ Use.lastHandle uses handle.identifier = some handle

/-! ## What is understood -/

/-- Who was told what, times apart. -/
def Received.telling (r : Received Nat) : Nat × Signal := (r.sink, r.notification.signal)

/-- What a call tells whom, if its code means anything. -/
def Delivery.telling? (d : Delivery Nat) : Option (Nat × Signal) :=
  match NotificationKind.ofCode d.code with
  | .ok kind => some (d.sink, ⟨kind, d.handle⟩)
  | .error _ => none

/-- A bridge understands every call whose code means something, in their order. -/
theorem Bridge.tellings_understand (now : Nat → Timestamp) (calls : List (Delivery Nat)) :
    (Bridge.understand now calls).map Received.telling = calls.filterMap Delivery.telling? := by
  -- The positions of the calls serve only to look up their times.
  have hcalls := List.zipIdx_map_fst 0 calls
  rw [understand]
  generalize calls.zipIdx = indexed at hcalls
  rw [← hcalls, List.map_filterMap, List.filterMap_map]
  refine List.filterMap_congr fun e _ => ?_
  simp only [Function.comp_apply, Delivery.telling?, Notification.ofReport, Except.map]
  cases NotificationKind.ofCode e.1.code with
  | ok kind => rfl
  | error => rfl

namespace Backend

/-- A code that means something is told to all sinks, and any other to nobody. -/
theorem tellings_emit (b : Backend Nat) (handle : Handle) (code : UInt32) :
    (b.emit handle code).filterMap Delivery.telling? =
      match NotificationKind.ofCode code with
      | .ok kind => b.callbacks.values.map (·, ⟨kind, handle⟩)
      | .error _ => [] := by
  rw [emit, List.filterMap_map]
  cases hkind : NotificationKind.ofCode code with
  | ok kind =>
    show _ = b.callbacks.values.map _
    rw [← List.filterMap_eq_map]
    refine List.filterMap_congr fun sink _ => ?_
    simp [Delivery.telling?, hkind]
  | error =>
    refine List.filterMap_eq_nil_iff.2 fun sink _ => ?_
    simp [Delivery.telling?, hkind]

/-- A backend that makes registrations itself goes on doing so. -/
theorem reached_detach {b : Backend Nat} (h : b.Reached) (id : Identifier) : (b.detach id).2.1.Reached := by
  unfold detach
  split
  · exact h
  · exact h

end Backend

namespace Exchange

/-- What is told by a use, and to whom. -/
def heard (x : Exchange) (now : Nat → Timestamp) (use : Use) : List (Received Nat) :=
  Bridge.understand now (x.use use).2

/-- What is told by one use after the other; the calls of the use at a position are understood at the times
of `clock` for that position. -/
def hear (x : Exchange) (clock : Nat → Nat → Timestamp) : List Use → List (Received Nat)
  | [] => []
  | use :: rest => x.heard (clock 0) use ++ (x.use use).1.hear (fun i => clock (i + 1)) rest

/-- What one sink is told, times apart. -/
def toldTo (k : Nat) (received : List (Received Nat)) : List Signal :=
  (received.filter (·.sink == k)).map (·.notification.signal)

theorem toldTo_append (k : Nat) (as bs : List (Received Nat)) :
    toldTo k (as ++ bs) = toldTo k as ++ toldTo k bs := by
  simp [toldTo]

/-- A sink is told what is told to it. -/
theorem toldTo_eq (k : Nat) (received : List (Received Nat)) :
    toldTo k received = ((received.map Received.telling).filter (·.1 == k)).map (·.2) := by
  rw [toldTo, List.filter_map, List.map_map]
  rfl

theorem hear_append (x : Exchange) (clock : Nat → Nat → Timestamp) (as bs : List Use) :
    x.hear clock (as ++ bs) =
      x.hear clock as ++ (x.serve as).1.hear (fun i => clock (i + as.length)) bs := by
  induction as generalizing x clock with
  | nil => rfl
  | cons use as ih =>
    simp only [List.cons_append, hear, ih, List.append_assoc, serve, List.length_cons,
      Nat.add_assoc]

theorem serve_concat (x : Exchange) (uses : List Use) (use : Use) :
    (x.serve (uses ++ [use])).1 = ((x.serve uses).1.use use).1 := by
  induction uses generalizing x with
  | nil => rfl
  | cons use' uses ih => exact ih _

/-! ## Who is not told anything -/

/-- Where nobody calls a sink, it is told nothing. -/
private theorem toldTo_heard_of_ne {x : Exchange} {use : Use} {k : Nat}
    (h : ∀ d ∈ (x.use use).2, d.sink ≠ k) (now : Nat → Timestamp) : toldTo k (x.heard now use) = [] := by
  rw [toldTo, List.map_eq_nil_iff, List.filter_eq_nil_iff]
  intro r hr
  obtain ⟨d, hd, hsink⟩ := Bridge.exists_of_mem_understand hr
  rw [← hsink, beq_iff_eq]
  exact h d hd

/-- A sink that is not installed any more is told nothing. -/
theorem toldTo_of_lacks {k : Nat} {x : Exchange} (h : x.Lacks k) (clock : Nat → Nat → Timestamp)
    (uses : List Use) : toldTo k (x.hear clock uses) = [] := by
  induction uses generalizing x clock with
  | nil => rfl
  | cons use rest ih =>
    obtain ⟨hlacks, hcalls⟩ := lacks_use h use
    rw [hear, toldTo_append, toldTo_heard_of_ne hcalls, ih hlacks, List.append_nil]

/-- Whoever is called has been registered by then. -/
private theorem sink_lt_use {x : Exchange} (h : x.Numbered) {use : Use} {d : Delivery Nat}
    (hd : d ∈ (x.use use).2) : d.sink < (x.use use).1.sinks := by
  cases use with
  | register =>
    have hsink : d.sink = x.sinks := Backend.sink_of_mem_register hd
    exact hsink ▸ Nat.lt_succ_self x.sinks
  | attach | emit => exact h _ (Backend.sink_of_mem_emit hd)
  | detach => exact h _ (Backend.sink_of_mem_detach hd)
  | unregister | prescribe => exact nomatch hd

theorem le_sinks_serve (x : Exchange) (uses : List Use) : x.sinks ≤ (x.serve uses).1.sinks := by
  induction uses generalizing x with
  | nil => exact Nat.le_refl x.sinks
  | cons use rest ih => exact (x.le_sinks_use use).trans (ih _)

/-- A sink that is still to be registered is told nothing. -/
theorem toldTo_of_numbered {k : Nat} {x : Exchange} (h : x.Numbered) (clock : Nat → Nat → Timestamp)
    {uses : List Use} (hk : (x.serve uses).1.sinks ≤ k) : toldTo k (x.hear clock uses) = [] := by
  induction uses generalizing x clock with
  | nil => rfl
  | cons use rest ih =>
    have hle := (x.use use).1.le_sinks_serve rest
    have hk : ((x.use use).1.serve rest).1.sinks ≤ k := hk
    have hcalls : ∀ d ∈ (x.use use).2, d.sink ≠ k := by
      intro d hd
      have hlt := sink_lt_use h hd
      omega
    rw [hear, toldTo_append, toldTo_heard_of_ne hcalls, ih (h.use use) _ hk, List.append_nil]

/-! ## An exchange and its uses -/

/-- What an exchange has become by some uses: it knows the attached devices and the installed sinks, and
numbers the callbacks one after the other. -/
structure Reflects (first : Int) (uses : List Use) (x : Exchange) : Prop where
  sinks : x.sinks = uses.countP Use.isRegister
  nextId : x.backend.nextId = first + x.sinks
  reached : x.backend.Reached
  attached : ∀ id, x.backend.attached.get? id = Use.lastHandle uses id
  callbacks : ∀ {id k}, x.backend.callbacks.get? id = some k ↔ id = first + k ∧ Use.Installed first uses k

namespace Reflects

variable {first : Int} {uses : List Use} {x : Exchange}

theorem opening {u : Setup} (hreject : u.rejectWith = none) : u.exchange.Reflects u.firstId [] where
  sinks := rfl
  nextId := (Int.add_zero u.firstId).symm
  reached := ⟨rfl, hreject⟩
  attached _ := rfl
  callbacks {id k} := by
    constructor
    · exact nofun
    · rintro ⟨-, hinstalled⟩
      exact absurd hinstalled.lt (Nat.not_lt_zero k)

/-- A use that registers nobody and removes nobody leaves the sinks as they were. -/
private theorem keep (h : x.Reflects first uses) {use : Use} {b : Backend Nat}
    (hregister : use.isRegister = false) (hremoves : ∀ id, use.removes id = false)
    (hnextId : b.nextId = x.backend.nextId) (hreached : b.Reached)
    (hcallbacks : b.callbacks = x.backend.callbacks)
    (hattached : ∀ id, b.attached.get? id = Use.lastHandle (uses ++ [use]) id) :
    Reflects first (uses ++ [use]) ⟨b, x.sinks⟩ where
  sinks := by
    rw [List.countP_append, List.countP_singleton, hregister]
    exact h.sinks
  nextId := hnextId.trans h.nextId
  reached := hreached
  attached := hattached
  callbacks {id k} := by
    have hne : use ≠ .register := by
      rintro rfl
      exact nomatch hregister
    rw [hcallbacks, h.callbacks, Use.installed_concat]
    simp [hne, hremoves]

private theorem register (h : x.Reflects first uses) :
    (x.use .register).1.Reflects first (uses ++ [.register]) := by
  have hb := Backend.register_of_reached h.reached x.sinks 0
  simp only [Exchange.use, Bridge.register, hb]
  refine ⟨?_, ?_, h.reached, fun id => ?_, fun {id k} => ?_⟩
  · rw [List.countP_append, h.sinks]
    rfl
  · show x.backend.nextId + 1 = first + (x.sinks + 1 : Nat)
    have hnextId := h.nextId
    omega
  · rw [Use.lastHandle_concat]
    exact h.attached id
  · show (x.backend.callbacks.insert x.backend.nextId x.sinks).get? id = some k ↔ _
    simp only [Use.installed_concat, SortedMap.get?_insert, Std.LawfulEqOrd.compare_eq_iff_eq, h.nextId]
    -- The number that is next belongs to the new sink, and any other number to whom it belonged before.
    split
    · rename_i hid
      subst hid
      rw [← h.sinks, Option.some.injEq]
      constructor
      · rintro rfl
        exact ⟨rfl, .inl ⟨trivial, rfl⟩⟩
      · rintro ⟨hid, -⟩
        omega
    · rename_i hid
      rw [h.callbacks]
      refine and_congr_right fun hk => ?_
      constructor
      · exact fun hinstalled => .inr ⟨rfl, hinstalled⟩
      · rintro (⟨-, hk'⟩ | ⟨-, hinstalled⟩)
        · rw [hk, hk', h.sinks] at hid
          exact absurd rfl hid
        · exact hinstalled

private theorem unregister (h : x.Reflects first uses) (n : Int) :
    (x.use (.unregister n)).1.Reflects first (uses ++ [.unregister n]) where
  sinks := by
    rw [List.countP_append]
    exact h.sinks
  nextId := h.nextId
  reached := h.reached
  attached id := by
    rw [Use.lastHandle_concat]
    exact h.attached id
  callbacks {id k} := by
    show (x.backend.callbacks.erase n).get? id = some k ↔ _
    simp only [Use.installed_concat, SortedMap.get?_erase, Std.LawfulEqOrd.compare_eq_iff_eq,
      reduceCtorEq, false_and, false_or, Use.removes, beq_eq_false_iff_ne]
    -- The number that is given back belongs to nobody, whether anybody had it before or not.
    split
    · rename_i hid
      subst hid
      constructor
      · exact nofun
      · rintro ⟨hid, hne, -⟩
        exact absurd hid hne
    · rename_i hid
      rw [h.callbacks]
      refine and_congr_right fun hk => ?_
      rw [and_iff_right]
      rw [← hk]
      exact Ne.symm hid

/-- What an exchange has become by one more use. -/
theorem use (h : x.Reflects first uses) {use : Use} (huse : use.isPrescribe = false) :
    (x.use use).1.Reflects first (uses ++ [use]) := by
  cases use with
  | register => exact h.register
  | unregister n => exact h.unregister n
  -- Attaching and detaching change which handle is the last one, and nothing about the callbacks.
  | attach handle =>
    refine h.keep rfl (fun _ => rfl) rfl h.reached rfl fun id => ?_
    show (x.backend.attached.insert handle.identifier handle).get? id = _
    simp only [SortedMap.get?_insert, Use.lastHandle_concat, h.attached, Use.moves, beq_iff_eq,
      Std.LawfulEqOrd.compare_eq_iff_eq, @eq_comm _ id, Use.attaches?]
  | detach id' =>
    refine h.keep rfl (fun _ => rfl) (x.backend.nextId_detach id') (Backend.reached_detach h.reached id')
      (x.backend.callbacks_detach id') fun id => ?_
    show (x.backend.detach id').2.1.attached.get? id = _
    rw [x.backend.attached_detach id']
    simp only [SortedMap.get?_erase, Use.lastHandle_concat, h.attached, Use.moves, beq_iff_eq,
      Std.LawfulEqOrd.compare_eq_iff_eq, @eq_comm _ id, Use.attaches?]
  | emit handle code =>
    refine h.keep rfl (fun _ => rfl) rfl h.reached rfl fun id => ?_
    rw [Use.lastHandle_concat]
    exact h.attached id
  | prescribe answer => exact nomatch huse

/-! ### The sinks and the devices -/

/-- The callbacks are those of the installed sinks, in the order of their registrations. -/
theorem values_callbacks (h : x.Reflects first uses) :
    x.backend.callbacks.values.Pairwise (· < ·) ∧
      ∀ k, k ∈ x.backend.callbacks.values ↔ Use.Installed first uses k := by
  constructor
  · refine List.pairwise_map.2 (x.backend.callbacks.ordered.imp_of_mem fun {a b} ha hb hlt => ?_)
    -- The number of a callback tells which sink it is.
    have hka := (h.callbacks.1 (SortedMap.mem_entries_iff_get?.1 ha)).1
    have hkb := (h.callbacks.1 (SortedMap.mem_entries_iff_get?.1 hb)).1
    have hlt : a.1 < b.1 := Int.compare_eq_lt.1 hlt
    omega
  · intro k
    rw [SortedMap.mem_values]
    constructor
    · rintro ⟨id, hget⟩
      exact (h.callbacks.1 hget).2
    · exact fun hinstalled => ⟨first + k, h.callbacks.2 ⟨rfl, hinstalled⟩⟩

theorem enumerates (h : x.Reflects first uses) : Enumerates uses x.backend.attached.values := by
  have hidentifier {id : Identifier} {handle : Handle}
      (hget : x.backend.attached.get? id = some handle) : handle.identifier = id :=
    Use.identifier_of_lastHandle ((h.attached id).symm.trans hget)
  refine ⟨List.pairwise_map.2 (x.backend.attached.ordered.imp_of_mem fun {a b} ha hb hlt => ?_),
    fun handle => ?_⟩
  · rw [hidentifier (SortedMap.mem_entries_iff_get?.1 ha), hidentifier (SortedMap.mem_entries_iff_get?.1 hb)]
    exact hlt
  · rw [SortedMap.mem_values, ← h.attached]
    constructor
    · rintro ⟨id, hget⟩
      rwa [hidentifier hget]
    · exact fun hget => ⟨_, hget⟩

/-! ### What is told -/

/-- What a use tells, it tells to all sinks that are installed, in the order of their registrations. -/
theorem heard (h : x.Reflects first uses) (now : Nat → Timestamp) {use : Use}
    (hregister : use.isRegister = false) :
    (x.heard now use).map Received.telling =
      (use.signal? uses).elim [] fun s => x.backend.callbacks.values.map (·, s) := by
  rw [Exchange.heard, Bridge.tellings_understand]
  cases use with
  | register => exact nomatch hregister
  | unregister | prescribe => rfl
  | attach handle => exact x.backend.tellings_emit handle NotificationKind.connected.code
  | detach id =>
    have hattached := h.attached id
    simp only [Exchange.use, Use.signal?, Backend.detach, ← hattached]
    cases x.backend.attached.get? id with
    | none => rfl
    | some handle => exact x.backend.tellings_emit handle NotificationKind.disconnected.code
  | emit handle code =>
    refine (x.backend.tellings_emit handle code).trans ?_
    -- Two codes mean something.
    by_cases hconnected : code = 1
    · subst hconnected
      rfl
    · by_cases hdisconnected : code = 2
      · subst hdisconnected
        rfl
      · have hkind : NotificationKind.ofCode code = .error (.malformedEvent code) := by
          exact (if_neg hconnected).trans (if_neg hdisconnected)
        rw [hkind, Use.signal?, if_neg hconnected, if_neg hdisconnected]
        rfl

/-- A sink that is registered is told of the devices that are attached, and nobody else is told. -/
private theorem toldTo_register (h : x.Reflects first uses) (k : Nat) (now : Nat → Timestamp) :
    toldTo k (x.heard now .register) =
      if k = x.sinks then x.backend.attached.values.map (⟨.connected, ·⟩) else [] := by
  -- Only the new callback is called while it is registered.
  by_cases hk : k = x.sinks
  · have hcalls : (x.use .register).2 = x.backend.attached.values.map fun handle =>
        ⟨x.sinks, handle, NotificationKind.connected.code⟩ := by
      simp only [Exchange.use, Bridge.register, Backend.register_of_reached h.reached]
    have htellings : (x.heard now .register).map Received.telling =
        x.backend.attached.values.map fun handle => (x.sinks, ⟨.connected, handle⟩) := by
      rw [Exchange.heard, Bridge.tellings_understand, hcalls, List.filterMap_map, ← List.filterMap_eq_map]
      rfl
    rw [if_pos hk, hk, toldTo_eq, htellings, List.filter_eq_self.2 (by simp), List.map_map]
    rfl
  · rw [if_neg hk]
    refine toldTo_heard_of_ne (fun d hd => ?_) now
    have hsink : d.sink = x.sinks := Backend.sink_of_mem_register hd
    exact hsink ▸ Ne.symm hk

/-- A sink that is installed is told once what there is to tell. -/
private theorem toldTo_heard (h : x.Reflects first uses) {k : Nat} (hk : Use.Installed first uses k)
    (now : Nat → Timestamp) (use : Use) :
    toldTo k (x.heard now use) = (use.signal? uses).toList := by
  by_cases hregister : use.isRegister = true
  · cases use with
    | register =>
      have hlt := hk.lt
      have hsinks := h.sinks
      rw [h.toldTo_register, if_neg (by omega)]
      rfl
    | unregister | attach | detach | emit | prescribe => exact nomatch hregister
  · obtain ⟨hascending, hmem⟩ := h.values_callbacks
    -- The sink is installed once, so it is among those who are told once.
    have hcount : x.backend.callbacks.values.filter (· == k) = [k] := by
      have hnodup : x.backend.callbacks.values.Nodup := hascending.imp Nat.ne_of_lt
      rw [List.filter_beq, hnodup.count, if_pos ((hmem k).2 hk)]
      rfl
    rw [toldTo_eq, h.heard now (Bool.eq_false_iff.2 hregister)]
    cases use.signal? uses with
    | none => rfl
    | some s =>
      rw [Option.elim_some, List.filter_map, List.map_map]
      show (x.backend.callbacks.values.filter (· == k)).map (fun _ => s) = [s]
      rw [hcount]
      rfl

/-- A sink that is not installed is told nothing, unless it is being registered. -/
private theorem toldTo_heard_of_not (h : x.Reflects first uses) {k : Nat}
    (hk : ¬ Use.Installed first uses k) (now : Nat → Timestamp) {use : Use}
    (hregister : use.isRegister = false) : toldTo k (x.heard now use) = [] := by
  obtain ⟨-, hmem⟩ := h.values_callbacks
  have hnone : x.backend.callbacks.values.filter (· == k) = [] := by
    refine List.filter_eq_nil_iff.2 fun k' hk' heq => ?_
    rw [beq_iff_eq.1 heq, hmem] at hk'
    exact hk hk'
  rw [toldTo_eq, h.heard now hregister]
  cases use.signal? uses with
  | none => rfl
  | some s =>
    rw [Option.elim_some, List.filter_map, List.map_map]
    show (x.backend.callbacks.values.filter (· == k)).map (fun _ => s) = []
    rw [hnone]
    rfl

/-- A sink is told the same by the same use after uses that are alike for it. -/
private theorem toldTo_heard_of_alike {uses' : List Use} {x' : Exchange} (h : x.Reflects first uses)
    (h' : x'.Reflects first uses') {k : Nat} (halike : Use.Alike first k uses uses')
    (now now' : Nat → Timestamp) (use : Use) :
    toldTo k (x.heard now use) = toldTo k (x'.heard now' use) := by
  by_cases hregister : use.isRegister = true
  · cases use with
    | register =>
      -- A new sink is told of the attached devices, and these are the same.
      have hattached : x.backend.attached = x'.backend.attached := by
        refine SortedMap.ext_get? fun id => ?_
        rw [h.attached, h'.attached, halike.lastHandle]
      rw [h.toldTo_register, h'.toldTo_register, hattached, h.sinks, h'.sinks, halike.registered]
    | unregister | attach | detach | emit | prescribe => exact nomatch hregister
  · have hregister : use.isRegister = false := Bool.eq_false_iff.2 hregister
    by_cases hk : Use.Installed first uses k
    · rw [h.toldTo_heard hk, h'.toldTo_heard (halike.installed.1 hk), halike.signal?]
    · have hk' : ¬ Use.Installed first uses' k := fun hk' => hk (halike.installed.2 hk')
      rw [h.toldTo_heard_of_not hk now hregister, h'.toldTo_heard_of_not hk' now' hregister]

/-- What a sink is told from then on depends on what the earlier uses mean to it. -/
theorem toldTo_hear_of_alike {uses' : List Use} {x' : Exchange} (h : x.Reflects first uses)
    (h' : x'.Reflects first uses') {k : Nat} (halike : Use.Alike first k uses uses')
    (clock clock' : Nat → Nat → Timestamp) {later : List Use}
    (hlater : ∀ use ∈ later, use.isPrescribe = false) :
    toldTo k (x.hear clock later) = toldTo k (x'.hear clock' later) := by
  -- Every use leaves exchanges that are alike again.
  induction later generalizing x uses x' uses' clock clock' with
  | nil => rfl
  | cons use rest ih =>
    obtain ⟨huse, hrest⟩ := List.forall_mem_cons.1 hlater
    rw [hear, hear, toldTo_append, toldTo_append, h.toldTo_heard_of_alike h' halike,
      ih (h.use huse) (h'.use huse) (halike.concat use) _ _ hrest]

/-- What an installed sink is told from then on: whatever there is to tell, until its callback is
removed. -/
theorem toldTo_hear (h : x.Reflects first uses) {k : Nat} (hk : Use.Installed first uses k)
    (clock : Nat → Nat → Timestamp) {later : List Use} (hlater : ∀ use ∈ later, use.isPrescribe = false) :
    toldTo k (x.hear clock later) =
      Use.told uses (later.takeWhile fun use => !use.removes (first + k)) := by
  induction later generalizing x uses clock with
  | nil => rfl
  | cons use rest ih =>
    obtain ⟨huse, hrest⟩ := List.forall_mem_cons.1 hlater
    have hnext := h.use huse
    have hlt := hk.lt
    rw [hear, toldTo_append, h.toldTo_heard hk]
    by_cases hremoves : use.removes (first + k) = true
    · -- The callback is removed, so nothing else is told.
      have hlacks : (x.use use).1.Lacks k := by
        refine ⟨?_, fun hmem => ?_⟩
        · have hle := x.le_sinks_use use
          have hsinks := h.sinks
          omega
        · rcases Use.installed_concat.1 ((hnext.values_callbacks.2 k).1 hmem) with ⟨-, hk'⟩ | ⟨hno, -⟩
          · omega
          · rw [hremoves] at hno
            exact nomatch hno
      have hsignal : use.signal? uses = none := by
        cases use with
        | unregister => rfl
        | register | attach | detach | emit | prescribe => exact nomatch hremoves
      rw [toldTo_of_lacks hlacks, hsignal, List.takeWhile_cons_of_neg (by simp [hremoves])]
      rfl
    · have hremoves : use.removes (first + k) = false := Bool.eq_false_iff.2 hremoves
      rw [ih hnext (Use.installed_concat.2 (.inr ⟨hremoves, hk⟩)) _ hrest,
        List.takeWhile_cons_of_pos (by simp [hremoves])]
      rfl

end Reflects

theorem reflects_serve {u : Setup} (hreject : u.rejectWith = none) {uses : List Use}
    (huses : ∀ use ∈ uses, use.isPrescribe = false) :
    (u.exchange.serve uses).1.Reflects u.firstId uses := by
  induction uses using List.reverseRecOn with
  | nil => exact .opening hreject
  | append_singleton uses use ih =>
    obtain ⟨huses, huse⟩ := List.forall_mem_append.1 huses
    rw [serve_concat]
    exact (ih huses).use (huse use List.mem_cons_self)

/-- What the sinks of a bridge over a backend are told, if the backend makes the registrations itself.

- The sink of the `k`-th registration is told of each device that is attached at that moment, by ascending
  identifier, and then of whatever the later uses tell, until the number of its callback is unregistered.
- What a use tells it tells to all sinks that are installed, in the order of their registrations; a use
  that tells nothing, such as detaching a device that is not there or emitting a code that means nothing,
  tells it to nobody.
- Unregistering a number makes no difference to any sink but the one whose callback has it.

What is told is a whole handle, and the times at which it is understood are arbitrary. -/
theorem told_exactly {u : Setup} (hreject : u.rejectWith = none) (clock : Nat → Nat → Timestamp)
    {uses : List Use} (huses : ∀ use ∈ uses, use.isPrescribe = false) :
    (∀ before after, uses = before ++ .register :: after →
      let k := before.countP Use.isRegister
      (Bridge.register (u.exchange.serve before).1.backend k).1 = Bridge.accept (u.firstId + k) ∧
      ∃ handles, Enumerates before handles ∧
        toldTo k (u.exchange.hear clock uses) =
          handles.map (⟨.connected, ·⟩) ++
            Use.told (before ++ [.register])
              (after.takeWhile fun use => !use.removes (u.firstId + k))) ∧
    (∀ before use after, uses = before ++ use :: after → use.isRegister = false →
      ∃ sinks : List Nat, sinks.Pairwise (· < ·) ∧ (∀ k, k ∈ sinks ↔ Use.Installed u.firstId before k) ∧
        ((u.exchange.serve before).1.heard (clock before.length) use).map Received.telling =
          (use.signal? before).elim [] fun s => sinks.map (·, s)) ∧
    ∀ before id after, uses = before ++ .unregister id :: after →
      ∀ k : Nat, id ≠ u.firstId + k → ∀ clock',
        toldTo k (u.exchange.hear clock uses) = toldTo k (u.exchange.hear clock' (before ++ after)) := by
  refine ⟨?_, ?_, ?_⟩
  · rintro before after rfl
    intro k
    obtain ⟨hbefore, hafter⟩ := List.forall_mem_append.1 huses
    obtain ⟨hregister, hafter⟩ := List.forall_mem_cons.1 hafter
    have hreflects := reflects_serve hreject hbefore
    have hsinks : (u.exchange.serve before).1.sinks = k := hreflects.sinks
    refine ⟨?_, (u.exchange.serve before).1.backend.attached.values, hreflects.enumerates, ?_⟩
    · rw [Bridge.register, Backend.register_of_reached hreflects.reached]
      show Bridge.accept (u.exchange.serve before).1.backend.nextId = _
      rw [hreflects.nextId, hsinks]
    · -- Nobody is told anything before being registered.
      have hearlier : toldTo k (u.exchange.hear clock before) = [] :=
        toldTo_of_numbered (numbered_serve u []) clock (Nat.le_of_eq hsinks)
      have hinstalled : Use.Installed u.firstId (before ++ [.register]) k :=
        Use.installed_concat.2 (.inl ⟨rfl, rfl⟩)
      rw [hear_append, hear, toldTo_append, toldTo_append, hearlier, hreflects.toldTo_register,
        if_pos hsinks.symm, (hreflects.use hregister).toldTo_hear hinstalled _ hafter]
      rfl
  · rintro before use after rfl hregister
    have hreflects := reflects_serve hreject (List.forall_mem_append.1 huses).1
    obtain ⟨hascending, hmem⟩ := hreflects.values_callbacks
    exact ⟨_, hascending, hmem, hreflects.heard _ hregister⟩
  · rintro before id after rfl k hid clock'
    obtain ⟨hbefore, hafter⟩ := List.forall_mem_append.1 huses
    obtain ⟨hunregister, hafter⟩ := List.forall_mem_cons.1 hafter
    have hreflects := reflects_serve hreject hbefore
    -- Without the use all later ones come at other times, which is why the clocks differ.
    have hsame : toldTo k (u.exchange.hear clock before) = toldTo k (u.exchange.hear clock' before) :=
      (Reflects.opening hreject).toldTo_hear_of_alike (.opening hreject) ⟨rfl, fun _ => rfl, .rfl⟩
        clock clock' hbefore
    rw [hear_append, hear_append, toldTo_append, toldTo_append, hear, toldTo_append, hsame,
      (hreflects.use hunregister).toldTo_hear_of_alike hreflects (.unregister hid before) _
        (fun i => clock' (i + before.length)) hafter]
    rfl

/-- Two devices, one of them attached again, and a sink that is not registered any more. -/
def sampleEarlier : List Use :=
  [.register, .attach (.plain "b" 3), .attach (.plain "a" 1), .attach (.plain "b" 4), .unregister 1]

/-- What happens after a sink is registered, while another one comes and goes. -/
def sampleLater : List Use :=
  [.detach ⟨"c"⟩, .emit (.plain "d" 0) 3, .register, .detach ⟨"b"⟩, .emit (.plain "d" 0) 2,
    .unregister 3, .attach (.plain "c" 5), .unregister 2, .detach ⟨"a"⟩]

/-- The second of three sinks is told of two devices that are attached already, of a device that goes with
the handle of its last attachment, of a code and of a device that comes.  The device that goes is told to
the second and the third sink, and that the third is removed makes no difference to the second. -/
theorem told_exactly_sample :
    let u := Setup.plain
    let uses := sampleEarlier ++ .register :: sampleLater
    let received := u.exchange.hear (fun _ => .tick) uses
    u.rejectWith = none ∧ (∀ use ∈ uses, use.isPrescribe = false) ∧
    Enumerates sampleEarlier [.plain "a" 1, .plain "b" 4] ∧
    toldTo 1 received =
      [⟨.connected, .plain "a" 1⟩, ⟨.connected, .plain "b" 4⟩, ⟨.disconnected, .plain "b" 4⟩,
        ⟨.disconnected, .plain "d" 0⟩, ⟨.connected, .plain "c" 5⟩] ∧
    (∀ k, k ∈ [1, 2] ↔ Use.Installed 1 (sampleEarlier ++ .register :: sampleLater.take 3) k) ∧
    toldTo 1 received =
      toldTo 1 (u.exchange.hear (fun _ => .tick)
        (sampleEarlier ++ .register :: sampleLater.eraseIdx 5)) := by
  intro u uses received
  have huses : ∀ use ∈ uses, use.isPrescribe = false := by decide +kernel
  obtain ⟨hregistered, htold, hother⟩ := told_exactly (u := u) rfl (fun _ => .tick) huses
  obtain ⟨-, handles, henumerates, hhandles⟩ := hregistered sampleEarlier sampleLater rfl
  obtain ⟨sinks, -, hsinks, hheard⟩ :=
    htold (sampleEarlier ++ .register :: sampleLater.take 3) (.detach ⟨"b"⟩) (sampleLater.drop 4) rfl rfl
  have hreceived : toldTo 1 received =
      [⟨.connected, .plain "a" 1⟩, ⟨.connected, .plain "b" 4⟩, ⟨.disconnected, .plain "b" 4⟩,
        ⟨.disconnected, .plain "d" 0⟩, ⟨.connected, .plain "c" 5⟩] := by
    decide +kernel
  have hattached : handles = [.plain "a" 1, .plain "b" 4] := by
    have hmap : handles.map (Signal.mk .connected) =
        [.plain "a" 1, .plain "b" 4].map (Signal.mk .connected) :=
      List.append_cancel_right (hhandles.symm.trans hreceived)
    exact List.map_injective_iff.2 (fun _ _ h => (Signal.mk.inj h).2) hmap
  have htwo : sinks = [1, 2] := by
    have hmap : sinks.map (Prod.mk · (Signal.mk .disconnected (.plain "b" 4))) =
        [1, 2].map (Prod.mk · (Signal.mk .disconnected (.plain "b" 4))) :=
      hheard.symm.trans (by decide +kernel)
    exact List.map_injective_iff.2 (fun _ _ h => (Prod.mk.inj h).1) hmap
  refine ⟨rfl, huses, hattached ▸ henumerates, hreceived, htwo ▸ hsinks, ?_⟩
  exact hother (sampleEarlier ++ .register :: sampleLater.take 5) 3 (sampleLater.drop 6) rfl 1
    (by decide) (fun _ => .tick)

end Exchange

end DeviceRoster
