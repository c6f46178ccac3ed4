import Gazetteer.Datasette.Exchange
import Gazetteer.Entity.Count
import Gazetteer.Proofs.Json.Members
import Gazetteer.Proofs.Retry.Calls

/-!
Replies that say that a query failed.  Such a reply is an error if its `error` is absent, null or a text.
With an `error` of any other kind the body is no failure note, and what it holds under `columns` and `rows`,
if anything, is taken for the result of the query.
-/

namespace Gazetteer.Datasette

open Json

def isWording : Option Tree → Bool
  | none | some .null => true
  | some (.string pieces) => (pieceText? pieces).isSome
  | some _ => false

variable {members : Members}

/-- A body that says that the query failed is a failure note exactly if its error can be put into words. -/
theorem failureNote_of_failed {named : List (String × Tree)} (read : named? members = some named)
    (distinct : KeysDistinct members) (failed : member? members "ok" = some (.bool false)) :
    (isWording (member? members "error") = true ∧
        ∃ error, FailureNote.ofTree? (.object members) = some ⟨some false, error⟩) ∨
      (isWording (member? members "error") = false ∧ FailureNote.ofTree? (.object members) = none) := by
  rw [FailureNote.ofTree?, parts?_object read distinct, List.map_cons, List.map_singleton, failed]
  cases error : member? members "error" with
  | none => exact .inl ⟨rfl, none, rfl⟩
  | some t =>
    cases t with
    | null => exact .inl ⟨rfl, none, rfl⟩
    | string pieces =>
      cases spelled : pieceText? pieces with
      | some message =>
        refine .inl ⟨by simp [isWording, spelled], some message, ?_⟩
        simp [partOr?, Tree.nullable?, Tree.bool?, Tree.text?, spelled]
      | none =>
        refine .inr ⟨by simp [isWording, spelled], ?_⟩
        simp [partOr?, Tree.nullable?, Tree.bool?, Tree.text?, spelled]
    | bool | number | array | object => exact .inr ⟨rfl, rfl⟩

theorem readReply_of_failed {status : Nat} {body : List UInt8} (success : Http.isSuccess status = true)
    (object : tree? body = some (.object members)) (distinct : KeysDistinct members)
    (failed : member? members "ok" = some (.bool false)) (table : Table) :
    readReply status body = .ok table ↔
      isWording (member? members "error") = false ∧ tableOfTree? (.object members) = some table := by
  simp only [readReply, success, object, Bool.not_true, Bool.false_eq_true, if_false, Option.bind_some]
  cases read : named? members with
  | none =>
    -- a key that is no text spoils both readings
    have no_note : FailureNote.ofTree? (.object members) = none := by
      rw [FailureNote.ofTree?, parts?_object_of_badKey read]
    have no_table : tableOfTree? (.object members) = none := by
      rw [tableOfTree?, parts?_object_of_badKey read]
    simp [no_note, no_table]
  | some named =>
    obtain ⟨worded, error, note⟩ | ⟨unworded, no_note⟩ := failureNote_of_failed read distinct failed
    · simp [note, worded]
    · cases tableOfTree? (.object members) with
      | none => simp [no_note]
      | some found => simp [no_note, unworded]

/-! ### The last attempt -/

def Client.outcome (c : Client) (peer : (attempt : Nat) → Delivery) (attempt : Nat) : Except QueryError Table :=
  (peer attempt).outcome c.settings.timeoutSeconds

theorem execute_returned (c : Client) (a : Retry.Arithmetic) (peer : (attempt : Nat) → Delivery) :
    (c.execute a peer).result? = Retry.returned? (max c.settings.maxAttempts 1) QueryError.isTransient (c.outcome peer)
      (c.execute a peer).attempts :=
  Retry.run_result? a _ _ _ _

theorem execute_result?_of_final {c : Client} {a : Retry.Arithmetic} {peer : (attempt : Nat) → Delivery}
    (final : Retry.isWorthAnother QueryError.isTransient (c.outcome peer (c.execute a peer).attempts) = false) :
    (c.execute a peer).result? = some (c.outcome peer (c.execute a peer).attempts) :=
  (execute_returned c a peer).trans (if_neg fun more => Bool.false_ne_true (final.symm.trans more.2))

/-- A response under a status of success is never worth another attempt. -/
theorem readReply_final {status : Nat} {body : List UInt8} (success : Http.isSuccess status = true) :
    Retry.isWorthAnother QueryError.isTransient (readReply status body) = false := by
  have low : status ≤ 299 := by
    rw [Http.isSuccess, Bool.and_eq_true, decide_eq_true_eq, decide_eq_true_eq] at success
    exact success.2
  simp only [readReply, success, Bool.not_true, Bool.false_eq_true, if_false]
  split
  · simp only [Retry.isWorthAnother, QueryError.isTransient, Bool.and_eq_false_iff, decide_eq_false_iff_not]
    omega
  · split <;> rfl

/-- When the last response to a query says that the query failed, its result is an error, unless the error of
the body is neither null nor a text and the rest of the body reads as a table. -/
theorem execute_of_failed {c : Client} {a : Retry.Arithmetic} {peer : (attempt : Nat) → Delivery} {status : Nat}
    {body : List UInt8} (last : peer (c.execute a peer).attempts = .reply status body)
    (success : Http.isSuccess status = true) (object : tree? body = some (.object members)) (distinct : KeysDistinct members)
    (failed : member? members "ok" = some (.bool false)) :
    ∃ result, (c.execute a peer).result? = some result ∧
      ∀ table, result = .ok table ↔ Http.hasContent status = true ∧
        isWording (member? members "error") = false ∧ tableOfTree? (.object members) = some table := by
  have outcome : c.outcome peer (c.execute a peer).attempts = readReply status (if Http.hasContent status then body else []) := by
    rw [Client.outcome, last, Delivery.outcome]
  refine ⟨_, execute_result?_of_final (by rw [outcome]; exact readReply_final success), fun table => ?_⟩
  rw [outcome]
  cases content : Http.hasContent status with
  | true => simpa using readReply_of_failed success object distinct failed table
  | false =>
    have unread : readReply status [] = .error (.malformed backendName .noTable) := by
      rw [readReply, success]
      rfl
    simp [unread]

/-! ### A failure in no words -/

def localClient : Client where
  settings := ⟨"http://127.0.0.1:8001", "entity", 20, .bound, 1⟩
  url := ⟨"http".toList, some ⟨[], [], .ipv4 ⟨127, 0, 0, 1⟩, some 8001⟩, .segments ["entity.json".toList], none, none⟩

def numberedFailure : List UInt8 := Text.Utf8.bytes "\x7b\"ok\":false,\"error\":5\x7d"

def numberedFailureMembers : Members :=
  [([.byte 0x6F, .byte 0x6B], .bool false),
    ([.byte 0x65, .byte 0x72, .byte 0x72, .byte 0x6F, .byte 0x72], .number ⟨false, [5], none, none⟩)]

theorem numberedFailure_object : tree? numberedFailure = some (.object numberedFailureMembers) := rfl

theorem keysDistinct_numberedFailure : KeysDistinct numberedFailureMembers := by
  rw [KeysDistinct]
  decide

theorem execute_numberedFailure :
    ∃ result, (localClient.execute .checked fun _ => .reply 200 numberedFailure).result? = some result ∧
      ∀ table, result = .ok table ↔ Http.hasContent 200 = true ∧
        isWording (member? numberedFailureMembers "error") = false ∧
        tableOfTree? (.object numberedFailureMembers) = some table :=
  execute_of_failed rfl rfl numberedFailure_object keysDistinct_numberedFailure rfl

/-- A body that says that the query failed is an empty table, and its count is zero. -/
theorem failure_read_as_table :
    Client.ofSettings localClient.settings = .ok localClient ∧ Http.isSuccess 200 = true ∧
      tree? numberedFailure = some (.object numberedFailureMembers) ∧ KeysDistinct numberedFailureMembers ∧
      member? numberedFailureMembers "ok" = some (.bool false) ∧
      (localClient.execute .checked fun _ => .reply 200 numberedFailure).result? = some (.ok {}) ∧
      ({} : Table).count countColumn = .ok 0 :=
  ⟨rfl, rfl, numberedFailure_object, keysDistinct_numberedFailure, rfl, rfl, rfl⟩

end Gazetteer.Datasette
