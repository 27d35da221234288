import RollingUpgrade.Model.Codec
import RollingUpgrade.Proofs.Rendition

namespace RollingUpgrade

open Document

namespace Condition

def rendition : Rendition Json := .record [("current", .exact), ("message", .exact)]

def fields (c : Condition) : List (Field Json) :=
  [⟨"current", .exact, some (.string c.current)⟩,
    ⟨"message", .exact, if c.message.isEmpty then none else some (.string c.message)⟩]

theorem toJson_eq (c : Condition) : c.toJson = .object (Field.entries c.fields) := by
  rw [toJson, fields]
  split <;> rfl

theorem rendition_self (c : Condition) : rendition c.toJson c.toJson := by
  rw [toJson_eq]
  exact Field.record_self c.fields (by simp [fields, Rendition.exact])

theorem reads_rendition : Reads rendition ofJson? toJson := by
  intro c d h
  rw [toJson_eq] at h
  have ⟨_, read, given⟩ := Field.fields?_given c.fields (by simp [fields]) h
  obtain _ | ⟨current, _ | ⟨message, ⟨⟩⟩⟩ := given
  have blank : (if c.message.isEmpty then "" else c.message) = c.message := by
    split
    case isTrue h => exact (String.isEmpty_iff.mp h).symm
    case isFalse  => rfl
  dsimp only [fields, List.map] at read
  simp only [ofJson?, read, Option.bind_eq_bind, Option.bind_some,
    (Reads.string _).orElse "" current, (Reads.string _).orElse_unless "" message, blank]
  rfl

end Condition

namespace Subordinate

def rendition : Rendition Json :=
  .record [("charm", .exact), ("leader", .exact), ("workload-status", Condition.rendition),
    ("juju-status", Condition.rendition)]

def fields (s : Subordinate) : List (Field Json) :=
  [⟨"charm", .exact, some (.string s.charm)⟩, ⟨"leader", .exact, some (.bool s.leader)⟩,
    ⟨"workload-status", Condition.rendition, s.workload.map Condition.toJson⟩,
    ⟨"juju-status", Condition.rendition, s.agent.map Condition.toJson⟩]

theorem toJson_eq (s : Subordinate) : s.toJson = .object (Field.entries s.fields) := by
  obtain ⟨_, _, workload, agent⟩ := s
  cases workload <;> cases agent <;> rfl

theorem rendition_self (s : Subordinate) : rendition s.toJson s.toJson := by
  rw [toJson_eq]
  exact Field.record_self s.fields
    (by simp [fields, Rendition.exact, Condition.rendition_self])

theorem reads_rendition : Reads rendition ofJson? toJson := by
  intro s d h
  rw [toJson_eq] at h
  have ⟨_, read, given⟩ := Field.fields?_given s.fields (by simp [fields]) h
  obtain _ | ⟨charm, _ | ⟨leader, _ | ⟨workload, _ | ⟨agent, ⟨⟩⟩⟩⟩⟩ := given
  dsimp only [fields, List.map] at read
  simp only [ofJson?, read, Option.bind_eq_bind, Option.bind_some, (Reads.string _).orElse "" charm,
    (Reads.bool _).orElse false leader,
    Condition.reads_rendition.orElse_optional (fun _ _ => Rendition.not_isNull_of_record) workload,
    Condition.reads_rendition.orElse_optional (fun _ _ => Rendition.not_isNull_of_record) agent]
  rfl

end Subordinate

namespace Principal

def rendition : Rendition Json :=
  .record [("leader", .exact), ("machine", .exact), ("public-address", .exact),
    ("workload-status", Condition.rendition), ("juju-status", Condition.rendition),
    ("subordinates", .map Subordinate.rendition)]

def fields (p : Principal) : List (Field Json) :=
  [⟨"leader", .exact, some (.bool p.leader)⟩, ⟨"machine", .exact, some (.string p.machine)⟩,
    ⟨"public-address", .exact, p.publicAddress.map .string⟩,
    ⟨"workload-status", Condition.rendition, p.workload.map Condition.toJson⟩,
    ⟨"juju-status", Condition.rendition, p.agent.map Condition.toJson⟩,
    ⟨"subordinates", .map Subordinate.rendition, some (.ofMap Subordinate.toJson p.subordinates)⟩]

theorem toJson_eq (p : Principal) : p.toJson = .object (Field.entries p.fields) := by
  obtain ⟨_, _, address, workload, agent, _⟩ := p
  cases address <;> cases workload <;> cases agent <;> rfl

theorem rendition_self (p : Principal) : rendition p.toJson p.toJson := by
  rw [toJson_eq]
  exact Field.record_self p.fields (by
    simp [fields, Rendition.exact, Condition.rendition_self,
      Rendition.map_self Subordinate.rendition_self])

theorem reads_rendition : Reads rendition ofJson? toJson := by
  intro p d h
  rw [toJson_eq] at h
  have ⟨_, read, given⟩ := Field.fields?_given p.fields (by simp [fields]) h
  obtain _ | ⟨leader, _ | ⟨machine, _ | ⟨address, _ | ⟨workload, _ | ⟨agent,
    _ | ⟨subordinates, ⟨⟩⟩⟩⟩⟩⟩⟩ := given
  dsimp only [fields, List.map] at read
  simp only [ofJson?, read, Option.bind_eq_bind, Option.bind_some,
    (Reads.bool _).orElse false leader, (Reads.string _).orElse "" machine,
    Reads.string.orElse_optional (fun _ _ h => h ▸ rfl) address,
    Condition.reads_rendition.orElse_optional (fun _ _ => Rendition.not_isNull_of_record) workload,
    Condition.reads_rendition.orElse_optional (fun _ _ => Rendition.not_isNull_of_record) agent,
    (Subordinate.reads_rendition.map _).orElse .empty subordinates]
  rfl

end Principal

namespace Application

def rendition : Rendition Json :=
  .record [("charm", .exact), ("subordinate-to", .exact), ("series", .exact),
    ("units", .map Principal.rendition)]

def fields (a : Application) : List (Field Json) :=
  [⟨"charm", .exact, some (.string a.charm)⟩,
    ⟨"subordinate-to", .exact, some (.strings a.subordinateTo)⟩,
    ⟨"series", .exact, a.series.map .string⟩,
    ⟨"units", .map Principal.rendition, some (.ofMap Principal.toJson a.units)⟩]

theorem toJson_eq (a : Application) : a.toJson = .object (Field.entries a.fields) := by
  obtain ⟨_, _, series, _⟩ := a
  cases series <;> rfl

theorem rendition_self (a : Application) : rendition a.toJson a.toJson := by
  rw [toJson_eq]
  exact Field.record_self a.fields
    (by simp [fields, Rendition.exact, Rendition.map_self Principal.rendition_self])

theorem reads_rendition : Reads rendition ofJson? toJson := by
  intro a d h
  rw [toJson_eq] at h
  have ⟨_, read, given⟩ := Field.fields?_given a.fields (by simp [fields]) h
  obtain _ | ⟨charm, _ | ⟨principals, _ | ⟨series, _ | ⟨units, ⟨⟩⟩⟩⟩⟩ := given
  dsimp only [fields, List.map] at read
  simp only [ofJson?, read, Option.bind_eq_bind, Option.bind_some, (Reads.string _).orElse "" charm,
    (Reads.strings _).orElse [] principals,
    Reads.string.orElse_optional (fun _ _ h => h ▸ rfl) series,
    (Principal.reads_rendition.map _).orElse .empty units]
  rfl

end Application

namespace Snapshot

def rendition : Rendition Json := .record [("applications", .map Application.rendition)]

def fields (s : Snapshot) : List (Field Json) :=
  [⟨"applications", .map Application.rendition, some (.ofMap Application.toJson s.applications)⟩]

theorem rendition_self (s : Snapshot) : rendition s.toJson s.toJson :=
  Field.record_self s.fields
    (by simp [fields, Rendition.map_self Application.rendition_self])

theorem reads_rendition : Reads rendition ofJson? toJson := by
  intro s d h
  have ⟨_, read, given⟩ := Field.fields?_given s.fields (by simp [fields]) h
  obtain _ | ⟨applications, ⟨⟩⟩ := given
  dsimp only [fields, List.map] at read
  simp only [ofJson?, read, Option.bind_eq_bind, Option.bind_some,
    (Application.reads_rendition.map _).orElse .empty applications]
  rfl

theorem reads_toJson (s : Snapshot) : ofJson? s.toJson = some s :=
  reads_rendition s _ s.rendition_self

-- A snapshot is read back as it was written, and also if keys stand in another order and if there
-- are fields of other names in any of its records.
theorem renditions_decode (s : Snapshot) :
    ofJson? s.toJson = some s ∧ ∀ j, rendition s.toJson j → ofJson? j = some s :=
  ⟨s.reads_toJson, reads_rendition s⟩

-- A unit that works, and how a tool may tell of it that knows more of it.
def lonely : Snapshot :=
  ⟨.ofList [("heat", ⟨"heat", [], none, .ofList [
    ("heat/0", ⟨true, "0", none, none, some ⟨"idle", ""⟩, .empty⟩)]⟩)]⟩

def lonelyAsTold : Json :=
  .object [("model", .string "openstack"), ("applications", .object [("heat", .object [
    ("exposed", .bool false), ("charm", .string "heat"), ("subordinate-to", .array []),
    ("units", .object [("heat/0", .object [
      ("machine", .string "0"), ("leader", .bool true),
      ("juju-status", .object [("since", .string "noon"), ("current", .string "idle")]),
      ("subordinates", .object [])])])])])]

theorem renditions_decode_lonely :
    rendition lonely.toJson lonelyAsTold ∧ ofJson? lonelyAsTold = some lonely := by
  have told : rendition lonely.toJson lonelyAsTold := by
    refine ⟨_, _, [_], [_], rfl, rfl, rfl, .swap _ _ _, .cons ⟨rfl, .map Application.rendition,
      by simp, _, _, _, rfl, rfl, .refl _, .cons ⟨rfl, ?application⟩ .nil⟩ .nil, by simp⟩
    refine ⟨_, _, [_, _, _], [_], rfl, rfl, rfl, @List.perm_append_comm _ [_] [_, _, _],
      .cons ⟨rfl, .exact, by simp, rfl⟩ <| .cons ⟨rfl, .exact, by simp, rfl⟩ <|
      .cons ⟨rfl, .map Principal.rendition, by simp, _, _, _, rfl, rfl, .refl _,
        .cons ⟨rfl, ?unit⟩ .nil⟩ .nil, by simp⟩
    refine ⟨_, _, [_, _, _, _], [], rfl, rfl, rfl, .swap _ _ _,
      .cons ⟨rfl, .exact, by simp, rfl⟩ <| .cons ⟨rfl, .exact, by simp, rfl⟩ <|
      .cons ⟨rfl, Condition.rendition, by simp, ?agent⟩ <|
      .cons ⟨rfl, .map Subordinate.rendition, by simp, _, _, _, rfl, rfl, .nil, .nil⟩ .nil,
      by simp⟩
    exact ⟨_, _, [_], [_], rfl, rfl, rfl, .swap _ _ _, .cons ⟨rfl, .exact, by simp, rfl⟩ .nil,
      by simp⟩
  exact ⟨told, (renditions_decode lonely).right _ told⟩

end Snapshot
end RollingUpgrade
