import CodeMaster.Engine.HomeAssistantDiscoveryService
import CodeMaster.Lib.Template

/-!
# `CodeMaster.Proofs.Engine.Discovery`: do the entities of different doors collide?

A door's id stands in its topics and in the `unique_id`s as it is, also with slashes and
underscores. Each of them is a template around the id, and two templates of a kind are `Apart`: the
discovery topics differ before the id, the others behind it. `nodup_announced` has the names of any
number of doors.

The library `Template` has the two facts that carry the proof. A template is injective in its id,
and two templates that are apart never make the same text, whatever the ids are. So names of one
kind differ within a door by their templates, and between two doors by their ids.

The prefixes of the service are arbitrary. The names are those of the messages that the service
builds, and not a second list of them.
-/

set_option autoImplicit false

namespace CodeMaster.Proofs.Engine.Discovery

open CodeMaster.Core CodeMaster.Engine HomeAssistantDiscoveryService
open CodeMaster.Mcp (JsonElement)

/-! ### What the messages announce -/

/-- The text under a name of the payload. -/
def textAt (payload : JsonElement) (name : String) : Option String :=
  match payload.tryGetProperty name with
  | .ok (some (.string value)) => some value
  | _ => none

/-- The discovery topics of the messages. -/
def discoveryTopics (messages : List HaDiscoveryMessage) : List String :=
  messages.map HaDiscoveryMessage.topic

/-- The values of `unique_id`. -/
def uniqueIds (messages : List HaDiscoveryMessage) : List String :=
  messages.filterMap fun m => textAt m.payload "unique_id"

/-- The state topics and the command topics. -/
def entityTopics (messages : List HaDiscoveryMessage) : List String :=
  messages.flatMap fun m => ["state_topic", "command_topic"].filterMap (textAt m.payload)

/-! ### The templates -/

/-- A template of texts. -/
def around (before after : String) : Template Char := ⟨before.toList, after.toList⟩

/-- The topics of the four messages, after the prefix. -/
def discoveryTemplates : List (Template Char) :=
  [around "/event/codemaster_" "/config", around "/lock/codemaster_" "/config",
    around "/binary_sensor/codemaster_" "/config", around "/switch/codemaster_" "/config"]

/-- The unique ids of the four entities. -/
def uniqueIdTemplates : List (Template Char) :=
  [around "codemaster_" "_access", around "codemaster_" "_lock", around "codemaster_" "_sensor",
    around "codemaster_" "_autolock"]

/-- The topics for states and commands, after the prefix. -/
def entityTemplates : List (Template Char) :=
  [around "/" "/event/state", around "/" "/lock/state", around "/" "/lock/set",
    around "/" "/sensor/state", around "/" "/autolock/state", around "/" "/autolock/set"]

/-- The names of a door under the templates, behind a common text. -/
def namesOf (text : String) (templates : List (Template Char)) (door : AccessPoint) :
    List String :=
  (templates.map (Template.prepend text.toList)).map fun t => String.ofList (t.fill door.id.toList)

/-- The text of a template with a prefix, filled with an id. -/
theorem ofList_fill_prepend (text before after id : String) :
    String.ofList (((around before after).prepend text.toList).fill id.toList)
      = text ++ before ++ id ++ after := by
  simp only [around, Template.fill, Template.prepend, ← String.toList_append, String.ofList_toList]

section
variable (s : HomeAssistantDiscoveryService) (door : AccessPoint)

/-- The topics of the messages are those of the templates. -/
theorem discoveryTopics_eq :
    discoveryTopics (s.buildAllDiscoveryMessages door)
      = namesOf s.discoveryPrefix discoveryTemplates door := by
  simp only [namesOf, discoveryTemplates, List.map_cons, List.map_nil, ofList_fill_prepend]
  rfl

/-- The unique ids are those of the templates. -/
theorem uniqueIds_eq :
    uniqueIds (s.buildAllDiscoveryMessages door) = namesOf "" uniqueIdTemplates door := by
  simp only [namesOf, uniqueIdTemplates, List.map_cons, List.map_nil, ofList_fill_prepend]
  rfl

/-- The topics of the entities are those of the templates. -/
theorem entityTopics_eq :
    entityTopics (s.buildAllDiscoveryMessages door)
      = namesOf s.statePrefix entityTemplates door := by
  simp only [namesOf, entityTemplates, List.map_cons, List.map_nil, ofList_fill_prepend]
  rfl

end

/-! ### The doors -/

/-- The names of several doors with different ids are pairwise different, under templates that are
apart. -/
theorem nodup_announced {templates : List (Template Char)}
    (happart : templates.Pairwise Template.Apart) {doors : List AccessPoint}
    (hids : (doors.map AccessPoint.id).Nodup) (text : String) :
    (doors.flatMap (namesOf text templates)).Nodup := by
  have hlists : (doors.map fun door => door.id.toList).Nodup := by
    rw [← Function.comp_def String.toList, ← List.map_map]
    exact hids.map fun _ _ h => String.toList_inj.mp h
  have hnames : doors.flatMap (namesOf text templates)
      = (doors.flatMap fun door =>
          (templates.map (Template.prepend text.toList)).map fun t => t.fill door.id.toList).map
        String.ofList := by
    rw [List.map_flatMap]
    congr 1
    funext door
    rw [namesOf, List.map_map, List.map_map, List.map_map]
    rfl
  rw [hnames]
  have happart' := Template.pairwise_prepend happart text.toList
  exact (Template.nodup_fills happart' hlists).map fun _ _ h => String.ofList_injective h

/-- For any number of doors with different ids, the discovery topics are pairwise different, and so
are the unique ids, and the state and command topics. -/
theorem nodup_of_doors (s : HomeAssistantDiscoveryService) {doors : List AccessPoint}
    (hids : (doors.map AccessPoint.id).Nodup) :
    (discoveryTopics (doors.flatMap s.buildAllDiscoveryMessages)).Nodup
      ∧ (uniqueIds (doors.flatMap s.buildAllDiscoveryMessages)).Nodup
      ∧ (entityTopics (doors.flatMap s.buildAllDiscoveryMessages)).Nodup := by
  have hdiscovery : discoveryTemplates.Pairwise Template.Apart := by decide
  have hunique : uniqueIdTemplates.Pairwise Template.Apart := by decide
  have hentity : entityTemplates.Pairwise Template.Apart := by decide
  refine ⟨?_, ?_, ?_⟩
  · rw [discoveryTopics, List.map_flatMap]
    show (doors.flatMap fun door => discoveryTopics (s.buildAllDiscoveryMessages door)).Nodup
    simp only [discoveryTopics_eq]
    exact nodup_announced hdiscovery hids s.discoveryPrefix
  · rw [uniqueIds, List.filterMap_flatMap]
    show (doors.flatMap fun door => uniqueIds (s.buildAllDiscoveryMessages door)).Nodup
    simp only [uniqueIds_eq]
    exact nodup_announced hunique hids ""
  · rw [entityTopics, List.flatMap_assoc]
    show (doors.flatMap fun door => entityTopics (s.buildAllDiscoveryMessages door)).Nodup
    simp only [entityTopics_eq]
    exact nodup_announced hentity hids s.statePrefix

/-- Two doors with different ids have eight discovery topics, eight unique ids and twelve state and
command topics, and those of a kind are pairwise different. -/
theorem entities_never_collide (discoveryPrefix statePrefix : String) (a b : AccessPoint)
    (hids : a.id ≠ b.id) :
    let s := new discoveryPrefix statePrefix
    let messages := s.buildAllDiscoveryMessages a ++ s.buildAllDiscoveryMessages b
    ((discoveryTopics messages).length = 8 ∧ (discoveryTopics messages).Nodup)
      ∧ ((uniqueIds messages).length = 8 ∧ (uniqueIds messages).Nodup)
      ∧ ((entityTopics messages).length = 12 ∧ (entityTopics messages).Nodup) := by
  intro s messages
  have hnodup : ([a, b].map AccessPoint.id).Nodup := by simpa using hids
  have hmessages : [a, b].flatMap s.buildAllDiscoveryMessages = messages := by
    simp [messages]
  have h := nodup_of_doors s hnodup
  rw [hmessages] at h
  exact ⟨⟨rfl, h.1⟩, ⟨rfl, h.2.1⟩, ⟨rfl, h.2.2⟩⟩

/-- A door with the id. -/
def doorNamed (id : String) : AccessPoint where
  id := id
  createdAt := { ticks := 0 }
  updatedAt := { ticks := 0 }

/-- The doors `auto` and `auto_lock` have different entities. -/
theorem entities_never_collide_auto :
    let s := new "homeassistant/" "codemaster"
    let messages := s.buildAllDiscoveryMessages (doorNamed "front")
      ++ s.buildAllDiscoveryMessages (doorNamed "front_auto")
    ((discoveryTopics messages).length = 8 ∧ (discoveryTopics messages).Nodup)
      ∧ ((uniqueIds messages).length = 8 ∧ (uniqueIds messages).Nodup)
      ∧ ((entityTopics messages).length = 12 ∧ (entityTopics messages).Nodup) :=
  entities_never_collide "homeassistant/" "codemaster" (doorNamed "front") (doorNamed "front_auto")
    (by decide)

end CodeMaster.Proofs.Engine.Discovery
