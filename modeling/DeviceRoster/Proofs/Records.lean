import DeviceRoster.Proofs.Course
import DeviceRoster.Proofs.History

/-!
# What is kept of a device agrees

The same things about a tracked device are kept in many places.  Its identifier is the key of its record, a
field of the record, part of the handle, what the target goes by and part of what the target shows; its
state is in the record, in the handle as a code of the backend, and in the target.  `Record.Agrees` says
that all these places agree.  They are written by different operations, and a notification that does not
count writes none of them.

## Key results

- `Sight.Agrees.next`: a notification that counts leaves places that agree
- `Registry.Agrees.receive`: so does every notification
- `Course.records_agree`: they agree throughout a course
-/

namespace DeviceRoster

/-! ## Places that agree -/

/-- The places in which a record and its target keep the same things about the device with the given
identifier.  `filter` is the filter that the category lets take effect. -/
structure Record.Agrees (category : Category) (filter : Option Identifier) (id : Identifier)
    (record : Record) (target : Target) : Prop where
  identifier : record.identifier = id
  handle_identifier : record.handle.identifier = id
  target_identifier : target.identifier = id
  info_identifier : target.info.identifier = id
  kind : target.info.kind = category.kind
  info_state : target.info.state = record.state
  /-- The state is the one that the table gives for the raw state, which is tracked. -/
  classified : category.table.classify record.handle.rawState = ⟨record.state, true⟩
  /-- The filter lets the device through. -/
  admitted : ∀ ecid, filter = some ecid → record.handle.ecid.getD record.handle.identifier = ecid
  name : ∀ name, record.handle.name = some name → target.info.name = name
  osVersion : ∀ version, record.handle.osVersion = some version →
    target.info.osVersion = some version
  architecture : ∀ architecture, record.handle.architecture = some architecture →
    target.info.architecture = some architecture

namespace Sight

/-- What is seen of a device agrees if its record and its target do. -/
def Agrees (category : Category) (filter : Option Identifier) (id : Identifier) (sight : Sight) : Prop :=
  ∀ number, Record.Agrees category filter id ⟨id, sight.handle, number, sight.state, sight.lastEvent⟩
    sight.target

/-- A target shows what it was told last, wherever something was told. -/
private theorem apply_told (info : TargetInfo) (handle : Handle) (state : State) :
    (∀ name, handle.name = some name → (info.apply handle state).name = name) ∧
    (∀ version, handle.osVersion = some version →
      (info.apply handle state).osVersion = some version) ∧
    (∀ architecture, handle.architecture = some architecture →
      (info.apply handle state).architecture = some architecture) := by
  unfold TargetInfo.apply
  refine ⟨?_, ?_, ?_⟩
  · intro name h
    rw [h]
    rfl
  · intro version h
    rw [h]
    rfl
  · intro architecture h
    rw [h]
    rfl

/-- What a handle that counts says of its device: its state is tracked, and the filter lets it through. -/
private theorem of_counts {category : Category} {filter : Option Identifier} {handle : Handle}
    (h : handle.counts category filter = true) :
    category.table.classify handle.rawState = ⟨handle.state category, true⟩ ∧
    ∀ ecid, filter = some ecid → handle.ecid.getD handle.identifier = ecid := by
  unfold Handle.counts at h
  obtain ⟨htracked, hfilter⟩ := Bool.and_eq_true_iff.1 h
  constructor
  · rw [← htracked]
    rfl
  · intro ecid heq
    subst heq
    simpa using hfilter

variable {category : Category} {filter : Option Identifier} {id : Identifier}

/-- A notification that counts for a device leaves places that agree, whether its target is made for it or
is there already. -/
theorem Agrees.next {before : Option Sight} (h : ∀ sight, before = some sight → sight.Agrees category filter id)
    {n : Notification} (hconcerns : n.concerns category filter id = true) {sight : Sight}
    (hnext : Sight.next category before n = some sight) : sight.Agrees category filter id := by
  obtain ⟨hcounts, hid⟩ := Bool.and_eq_true_iff.1 hconcerns
  have hid : n.handle.identifier = id := beq_iff_eq.1 hid
  obtain ⟨hclassified, hadmitted⟩ := of_counts hcounts
  intro number
  cases hkind : n.kind with
  | disconnected =>
    rw [next_of_disconnected hkind] at hnext
    exact nomatch hnext
  | connected =>
    simp only [Sight.next, hkind, Option.some.injEq] at hnext
    subst hnext
    cases before with
    | none =>
      -- The target is made from this handle.
      obtain ⟨hname, hversion, harchitecture⟩ := apply_told
        ⟨n.identifier, category.defaultName n.identifier, category.kind, n.state category, none, none⟩
        n.handle (n.state category)
      exact ⟨rfl, hid, (category.detail_identifier _).trans hid, hid, rfl, rfl, hclassified, hadmitted,
        hname, hversion, harchitecture⟩
    | some earlier =>
      -- The target is refreshed, which touches neither its identifier nor its kind.
      have hearlier := h earlier rfl number
      obtain ⟨hname, hversion, harchitecture⟩ :=
        apply_told earlier.target.info n.handle (n.state category)
      exact ⟨rfl, hid, hearlier.target_identifier, hearlier.info_identifier, hearlier.kind, rfl,
        hclassified, hadmitted, hname, hversion, harchitecture⟩

end Sight

/-! ## Registries whose records agree -/

namespace Registry

/-- Whatever is seen of a device agrees. -/
def Agrees (r : Registry) : Prop :=
  ∀ id sight, r.sight id = some sight → sight.Agrees r.category r.filter id

theorem agrees_of_empty {r : Registry} (h : r.records = .empty) : r.Agrees := by
  intro id sight hsight
  rw [sight_eq_none (by rw [h, SortedMap.get?_empty])] at hsight
  exact nomatch hsight

/-- A notification keeps everything in agreement: it writes all places of one device, or none. -/
theorem Agrees.receive {r : Registry} (h : r.Agrees) (hr : r.Coherent) (n : Notification) :
    (r.receive n).1.Agrees := by
  intro id sight hsight
  rw [sight_receive hr] at hsight
  rw [category_receive, filter_receive]
  split at hsight
  · rename_i hconcerns
    exact Sight.Agrees.next (h id) hconcerns hsight
  · exact h id sight hsight

end Registry

/-! ## Courses -/

namespace Course

/-- What holds of a registry throughout a course on the setup that it was made for. -/
structure KeepsTo (u : Setup) (r : Registry) : Prop where
  coherent : r.Coherent
  agrees : r.Agrees
  category : r.category = u.category
  filter : r.filter = if u.category.hasEcid then u.filter else none

/-- Throughout a course everything that is seen agrees. -/
private theorem keepsTo_run (u : Setup) (actions : List Action) :
    KeepsTo u (u.opening.run actions).registry := by
  apply registry_run actions
  · exact ⟨Registry.coherent_of_empty rfl, Registry.agrees_of_empty rfl, rfl, rfl⟩
  · intro r n h
    exact ⟨h.coherent.receive n, h.agrees.receive h.coherent n, (r.category_receive n).trans h.category,
      (r.filter_receive n).trans h.filter⟩
  · intro r h
    exact ⟨h.coherent.subscribe, h.agrees, h.category, h.filter⟩
  · intro r k f h
    exact ⟨h.coherent.modifyChannel k f, h.agrees, h.category, h.filter⟩

/-- Throughout a course every record has a target, and what the two keep of their device agrees, with each
other and with the key of the record.  The state is the one that the category's table gives for the raw
state of the handle and is tracked there, and a filter lets the device through; a category without ECIDs has
no filter.  What the handle tells, the target shows. -/
theorem records_agree (u : Setup) (actions : List Action) {id : Identifier} {record : Record}
    (hget : (u.opening.run actions).registry.records.get? id = some record) :
    ∃ target, (u.opening.run actions).registry.target? record.target = some target ∧
      record.Agrees u.category (if u.category.hasEcid then u.filter else none) id target := by
  obtain ⟨hcoherent, hagrees, hcategory, hfilter⟩ := keepsTo_run u actions
  obtain ⟨target, htarget, hsight⟩ := hcoherent.sight_eq_some hget
  have hshown := hagrees id _ hsight record.target
  rw [hcategory, hfilter] at hshown
  have hid : record.identifier = id := hcoherent.identifier hget
  -- The sight shows all of the record but the identifier, which is the key.
  refine ⟨target, htarget, ?_⟩
  subst hid
  exact hshown

/-- Regular devices of which only the one with ECID `7` is tracked. -/
def filteredSetup : Setup := { Setup.plain with filter := some ⟨"7"⟩ }

/-- A device says its name when it connects and its version when it connects again.  It is then reported in
a state that is not tracked, and another device is filtered out. -/
def sampleRecords : List Action :=
  let named : Handle := { Handle.plain "a" 2 with ecid := some ⟨"7"⟩, name := some "Phone" }
  let versioned : Handle := { Handle.plain "a" 3 with ecid := some ⟨"7"⟩, osVersion := some "17" }
  let recovering : Handle := { Handle.plain "a" 4 with ecid := some ⟨"7"⟩ }
  [.start .tick, .attach .tick named, .process, .attach .tick versioned, .process,
    .attach .tick recovering, .process, .attach .tick (.plain "b" 3), .process]

/-- The record and the target of the first device are as its second handle left them, and the name that was
told before is still there. -/
theorem records_agree_sample :
    ∃ record target, (filteredSetup.opening.run sampleRecords).registry.records.get? ⟨"a"⟩ = some record ∧
      (filteredSetup.opening.run sampleRecords).registry.target? record.target = some target ∧
      record.Agrees .regular (some ⟨"7"⟩) ⟨"a"⟩ target ∧
      record.handle.osVersion = some "17" ∧ target.info.name = "Phone" := by
  have hsome : ((filteredSetup.opening.run sampleRecords).registry.records.get? ⟨"a"⟩).map
      (fun record => (record.target, record.handle.osVersion)) = some (0, some "17") := by
    decide +kernel
  obtain ⟨record, hget, hrecord⟩ := Option.map_eq_some_iff.1 hsome
  obtain ⟨hnumber, hversion⟩ := Prod.mk.inj hrecord
  obtain ⟨target, htarget, hagrees⟩ := records_agree filteredSetup sampleRecords hget
  have hname : ((filteredSetup.opening.run sampleRecords).registry.target? 0).map (·.info.name) =
      some "Phone" := by
    decide +kernel
  rw [← hnumber, htarget] at hname
  exact ⟨record, target, hget, htarget, hagrees, hversion, Option.some.inj hname⟩

end Course

end DeviceRoster
