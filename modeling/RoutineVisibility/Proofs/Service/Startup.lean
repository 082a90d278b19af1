import RoutineVisibility.Proofs.Json.Depth
import RoutineVisibility.Proofs.Store.Loading
import RoutineVisibility.Service.Basic

/-! How a service starts with the text of a data set. -/
namespace RoutineVisibility.Service

/-- How the start with a text ends, if data sets are read down to a depth. -/
inductive Starts (setting : Setting) (depth dataDepth : Nat) (localOffset : Int) (text : String) :
    Except LoadFault Service → Prop where
  | loaded {members : List (Text × Json)} {r : Dataset.Records}
    (read : Json.read dataDepth text = .ok (.obj members))
    (brings : Dataset.Brings localOffset members r) :
    Starts setting depth dataDepth localOffset text (.ok ⟨some (.ofRecords r), setting, depth⟩)
  | unreadable {fault : Json.ReadFault} (read : Json.read dataDepth text = .error fault)
    (shallow : fault ≠ .tooDeep) :
    Starts setting depth dataDepth localOffset text (.ok ⟨some .empty, setting, depth⟩)
  | refused {data : Json} {errors : List FieldError} (read : Json.read dataDepth text = .ok data)
    (first : Dataset.FirstFault localOffset data (.refused (.faults errors))) :
    Starts setting depth dataDepth localOffset text (.ok ⟨some .empty, setting, depth⟩)
  | tooDeep (read : Json.read dataDepth text = .error .tooDeep) :
    Starts setting depth dataDepth localOffset text (.error (.unreadable .tooDeep))
  | broken {data : Json} {f : LoadFault} (read : Json.read dataDepth text = .ok data)
    (first : Dataset.FirstFault localOffset data f)
    (kind : f = .noObject ∨ f = .noList ∨ f = .refused .outOfRange) :
    Starts setting depth dataDepth localOffset text (.error f)

variable {setting : Setting} {depth dataDepth : Nat} {localOffset : Int} {text : String}

theorem start_of_tolerated {f : LoadFault} (tolerated : tolerates f) :
    start setting depth (.error f) = .ok ⟨some .empty, setting, depth⟩ := by
  show (if tolerates f then Except.ok Store.empty else .error f) >>= _ = _
  rw [if_pos tolerated]
  rfl

theorem start_of_not_tolerated {f : LoadFault} (fatal : tolerates f = false) :
    start setting depth (.error f) = .error f := by
  show (if tolerates f then Except.ok Store.empty else .error f) >>= _ = _
  rw [fatal]
  rfl

theorem ofText_of_read {data : Json} (read : Json.read dataDepth text = .ok data) :
    Store.ofText (F := Exact) dataDepth localOffset text = Store.ofData localOffset data := by
  unfold Store.ofText
  rw [read]

theorem ofText_of_unreadable {fault : Json.ReadFault}
    (read : Json.read dataDepth text = .error fault) :
    Store.ofText (F := Exact) dataDepth localOffset text = .error (.unreadable fault) := by
  unfold Store.ofText
  rw [read]

theorem Starts.start_eq {result : Except LoadFault Service}
    (starts : Starts setting depth dataDepth localOffset text result) :
    start setting depth (Store.ofText dataDepth localOffset text) = result := by
  cases starts with
  | loaded read brings =>
    rw [ofText_of_read read, Store.ofData_of_brings brings]
    rfl
  | @unreadable fault read shallow =>
    rw [ofText_of_unreadable read]
    refine start_of_tolerated ?_
    cases fault with
    | malformed | number => rfl
    | tooDeep => exact absurd rfl shallow
  | refused read first =>
    rw [ofText_of_read read, Store.ofData_of_firstFault first]
    exact start_of_tolerated rfl
  | tooDeep read =>
    rw [ofText_of_unreadable read]
    exact start_of_not_tolerated rfl
  | broken read first kind =>
    rw [ofText_of_read read, Store.ofData_of_firstFault first]
    refine start_of_not_tolerated ?_
    rcases kind with rfl | rfl | rfl <;> rfl

theorem exists_starts (setting : Setting) (depth dataDepth : Nat) (localOffset : Int)
    (text : String) : ∃ result, Starts setting depth dataDepth localOffset text result := by
  cases read : Json.read dataDepth text with
  | error fault =>
    by_cases deep : fault = .tooDeep
    · exact ⟨_, .tooDeep (deep ▸ read)⟩
    · exact ⟨_, .unreadable read deep⟩
  | ok data =>
    rcases Dataset.brings_or_firstFault localOffset data with ⟨members, r, rfl, brings⟩ | ⟨f, first⟩
    · exact ⟨_, .loaded read brings⟩
    · rcases first.kind with rfl | rfl | ⟨r, rfl⟩
      · exact ⟨_, .broken read first (.inl rfl)⟩
      · exact ⟨_, .broken read first (.inr (.inl rfl))⟩
      · cases r with
        | faults errors => exact ⟨_, .refused read first⟩
        | outOfRange => exact ⟨_, .broken read first (.inr (.inr rfl))⟩

/-- What comes of the start with a text, for each text and for every depth that data sets are read
to. -/
theorem start_eq_iff (setting : Setting) (depth dataDepth : Nat) (localOffset : Int) (text : String)
    (result : Except LoadFault Service) :
    start setting depth (Store.ofText dataDepth localOffset text) = result ↔
      Starts setting depth dataDepth localOffset text result := by
  refine ⟨?_, Starts.start_eq⟩
  rintro rfl
  obtain ⟨result, starts⟩ := exists_starts setting depth dataDepth localOffset text
  rw [starts.start_eq]
  exact starts

/-- There are texts that a service does not start with: an array, an object with a list that is
null, one with a completion at a time before the calendar, and one that nests deeper than data sets
are read. -/
theorem not_forall_start :
    let setting : Setting := ⟨⟨.first, 0⟩, defaultResetTime⟩
    let begun (dataDepth : Nat) (text : String) : Except LoadFault Service :=
      start setting 0 (Store.ofText dataDepth 0 text)
    begun 3 "[]" = .error .noObject ∧ begun 3 "\x7b\"persons\": null\x7d" = .error .noList ∧
      begun 3 ("\x7b\"completions\": [\x7b\"task_id\": \"T\", \"person_id\": \"P\", " ++
        "\"completed_at\": \"0001-01-01T00:00:00+05:00\"\x7d]\x7d") =
          .error (.refused .outOfRange) ∧
      begun 3 "\x7b\"notes\": [[[]]]\x7d" = .error (.unreadable .tooDeep) ∧
      ∀ dataDepth > 0, ¬ ∀ text, ∃ v, begun dataDepth text = .ok v := by
  intro setting begun
  refine ⟨rfl, rfl, rfl, rfl, fun dataDepth positive starts => ?_⟩
  obtain ⟨v, started⟩ := starts "[]"
  have read : Json.read dataDepth "[]" = .ok (.arr []) := Json.read_of_le positive nofun
  have array : begun dataDepth "[]" = .error .noObject := by
    show start setting 0 (Store.ofText dataDepth 0 "[]") = _
    rw [ofText_of_read read]
    rfl
  rw [array] at started
  cases started

end RoutineVisibility.Service
