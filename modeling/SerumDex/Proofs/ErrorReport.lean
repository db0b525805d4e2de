import SerumDex.Snapshot.Error
import SerumDex.Text.Parted

namespace SerumDex.SnapshotError

open Text

mutual

/-- The single errors that went into an error, in their order. -/
def leaves : SnapshotError → List SnapshotError
  | aggregate errors => leavesOf errors
  | e => [e]

def leavesOf : List SnapshotError → List SnapshotError
  | [] => []
  | e :: es => e.leaves ++ leavesOf es

end

/-- How a message begins that is about several errors. -/
def announcement (count : Nat) : String := count.repr ++ " sous-requêtes ont échoué : "

mutual

/-- What the message of an error says, one thing after the other: a single error its own message,
and several errors how many they are and what each of them says. -/
def statements : SnapshotError → List String
  | aggregate errors => announcement errors.length :: statementsOf errors
  | e => [e.message]

def statementsOf : List SnapshotError → List String
  | [] => []
  | e :: es => e.statements ++ statementsOf es

end

def IsAggregate : SnapshotError → Prop
  | aggregate _ => True
  | _ => False

theorem message_aggregate (errors : List SnapshotError) : (aggregate errors).message =
    announcement errors.length ++ "; ".intercalate (messages errors) := rfl

theorem leavesOf_eq_flatMap (es : List SnapshotError) : leavesOf es = es.flatMap leaves := by
  induction es with
  | nil => rfl
  | cons e es ih => rw [leavesOf, ih, List.flatMap_cons]

theorem leaves_of_ofList? {es : List SnapshotError} {e : SnapshotError}
    (h : ofList? es = some e) : e.leaves = es.flatMap leaves := by
  rcases ofList?_eq_some h with rfl | rfl
  · exact (List.flatMap_singleton leaves e).symm
  · rw [leaves, leavesOf_eq_flatMap]

mutual

theorem not_isAggregate_of_mem_leaves : ∀ e : SnapshotError, ∀ l ∈ e.leaves, ¬ l.IsAggregate
  | fetch source => by
    intro l hl
    rw [List.mem_singleton.mp hl]
    exact id
  | decode account address source => by
    intro l hl
    rw [List.mem_singleton.mp hl]
    exact id
  | lookup mint reason => by
    intro l hl
    rw [List.mem_singleton.mp hl]
    exact id
  | aggregate errors => by
    rw [leaves]
    exact not_isAggregate_of_mem_leavesOf errors

theorem not_isAggregate_of_mem_leavesOf :
    ∀ es : List SnapshotError, ∀ l ∈ leavesOf es, ¬ l.IsAggregate
  | [] => nofun
  | e :: es => by
    intro l hl
    rw [leavesOf] at hl
    rcases List.mem_append.mp hl with hl | hl
    · exact not_isAggregate_of_mem_leaves e l hl
    · exact not_isAggregate_of_mem_leavesOf es l hl

end

mutual

theorem statements_occur : ∀ e : SnapshotError, OccurInOrder e.statements e.message
  | fetch source => .self (fetch source).message
  | decode account address source => .self (decode account address source).message
  | lookup mint reason => .self (lookup mint reason).message
  | aggregate errors => by
    rw [statements, message_aggregate]
    exact (OccurInOrder.self (announcement errors.length)).append (statementsOf_occur errors)

/-- What several errors say is there when their messages are joined. -/
theorem statementsOf_occur :
    ∀ es : List SnapshotError, OccurInOrder (statementsOf es) ("; ".intercalate (messages es))
  | [] => nofun
  | [e] => by
    rw [messages, messages, String.intercalate_singleton, statementsOf, statementsOf,
      List.append_nil]
    exact statements_occur e
  | e :: next :: es => by
    have hseparated : OccurInOrder [] "; " := fun _ _ => rfl
    have hfirst := (statements_occur e).append hseparated
    rw [List.append_nil] at hfirst
    rw [messages, messages, String.intercalate_cons_cons, statementsOf]
    exact hfirst.append (statementsOf_occur (next :: es))

end

mutual

/-- The messages of the single errors are among what is said. -/
theorem messages_sublist_statements :
    ∀ e : SnapshotError, (e.leaves.map message).Sublist e.statements
  | fetch source => List.Sublist.refl _
  | decode account address source => List.Sublist.refl _
  | lookup mint reason => List.Sublist.refl _
  | aggregate errors => by
    rw [leaves, statements]
    exact (messages_sublist_statementsOf errors).cons _

theorem messages_sublist_statementsOf :
    ∀ es : List SnapshotError, ((leavesOf es).map message).Sublist (statementsOf es)
  | [] => List.Sublist.refl _
  | e :: es => by
    rw [leavesOf, statementsOf, List.map_append]
    exact (messages_sublist_statements e).append (messages_sublist_statementsOf es)

end

/-- Errors that are put together are no error exactly if there is none, and otherwise an error made
of the same single errors in the same order, none of them being made of others. Whatever errors an
error is made of, their messages occur in its message one behind the other, and where several errors
were put together, how many they are stands before what they say. -/
theorem ofList?_loses_nothing :
    (∀ es, ofList? es = none ↔ es = []) ∧
    (∀ es e, ofList? es = some e → e.leaves = es.flatMap leaves) ∧
    (∀ e, ∀ l ∈ leaves e, ¬ l.IsAggregate) ∧
    (∀ e : SnapshotError, OccurInOrder (e.leaves.map message) e.message) ∧
    ∀ e : SnapshotError, OccurInOrder e.statements e.message := by
  refine ⟨fun _ => ofList?_eq_none_iff, ?_, ?_, ?_, statements_occur⟩
  · intro es e h
    exact leaves_of_ofList? h
  · exact not_isAggregate_of_mem_leaves
  · intro e
    exact (statements_occur e).sublist (messages_sublist_statements e)

section Nested

/-- A single error beside several ones, of which some are put together from none. -/
def nestedErrors : List SnapshotError :=
  [.lookup .wrappedSol "gone",
    .aggregate [.fetch (.notFound .wrappedSol), .aggregate [],
      .decode "Bids" .wrappedSol (.truncated "head" 13 5)]]

theorem ofList?_loses_nothing_of_nested :
    ∃ e, ofList? nestedErrors = some e ∧
      e.leaves = [.lookup .wrappedSol "gone", .fetch (.notFound .wrappedSol),
        .decode "Bids" .wrappedSol (.truncated "head" 13 5)] ∧
      OccurInOrder (e.leaves.map message) e.message ∧
      OccurInOrder [announcement 2, (lookup .wrappedSol "gone").message, announcement 3,
        (FetchError.notFound .wrappedSol).message, announcement 0,
        (decode "Bids" .wrappedSol (.truncated "head" 13 5)).message] e.message := by
  obtain ⟨_, hleaves, _, hmessages, hstatements⟩ := ofList?_loses_nothing
  have hsome : ofList? nestedErrors = some (.aggregate nestedErrors) := rfl
  exact ⟨_, hsome, hleaves _ _ hsome, hmessages _, hstatements (.aggregate nestedErrors)⟩

end Nested

end SerumDex.SnapshotError
