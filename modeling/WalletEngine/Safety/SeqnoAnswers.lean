import WalletEngine.Engine.Responses

/-! # Sequence numbers of failed executions

A get-method answer reports whether the execution failed: by an error, by a flag or by an exit
code. The parser of public keys heeds all three. The parser of sequence numbers heeds only the
error, and takes one that is null for a failure. -/

namespace WalletEngine

section Reports

/-- Parse a signed 64-bit integer. -/
def parseI64 (text : String) : Option Int :=
  match text.toList with
  | '-' :: '+' :: _ => none
  | '-' :: digits => (parseUnsigned (2 ^ 63 + 1) (String.ofList digits)).map (-·)
  | _ => (parseUnsigned (2 ^ 63) text).map (·)

/-- The virtual machine exits with 0 or 1 when it succeeds. -/
def exitSucceeded (code : Json) : Bool :=
  [some 0, some 1].contains (code.asI64.or (code.asStr.bind parseI64))

/-- The answer has no flag that it failed and no exit code of a failure. -/
def reportsNoFailure (value : Json) : Bool :=
  let refused := match value.get "ok" with
    | some (.bool false) => true
    | _ => false
  !refused && ((value.get "result").bind (·.get "exit_code")).all exitSucceeded

/-- The rule that the parser of public keys applies to an answer. -/
def getMethodSucceeded (value : Json) : Bool :=
  (value.get "error").all Json.isNull && reportsNoFailure value

/-- The first stack entry as a number of 32 bits. -/
def stackSeqno (value : Json) : Option Nat := do
  let first ← ((value.get "result").bind (·.get "stack")).bind (·.item 0)
  let encoded ← stackNumber first
  if "0x".toList.isPrefixOf encoded.toList then parseHex u32Bound (encoded.toList.drop 2)
  else parseUnsigned u32Bound encoded

/-- An error that is null comes with another report of a failure, and without an error there is
no such report. -/
def clearReport (value : Json) : Bool :=
  match value.get "error" with
  | some error => !error.isNull || !reportsNoFailure value
  | none => reportsNoFailure value

end Reports

variable {serde : Serde} {body : serde.Body}

theorem parseSeqno_eq_ok {value : Json} (read : serde.fromSlice body = .ok value) {seqno : Nat} :
    parseSeqno serde body = .ok seqno ↔
      value.get "error" = none ∧ stackSeqno value = some seqno := by
  unfold parseSeqno stackSeqno
  rw [read, Except.mapError, except_ok_bind]
  cases value.get "error" with
  | some error => exact ⟨nofun, nofun⟩
  | none =>
    rw [eq_self, true_and]
    cases ((value.get "result").bind (·.get "stack")).bind (·.item 0) with
    | none => exact ⟨nofun, nofun⟩
    | some first =>
      rw [Option.bind_eq_bind, Option.bind_some]
      dsimp only
      cases stackNumber first with
      | none => exact ⟨nofun, nofun⟩
      | some encoded =>
        rw [Option.bind_eq_bind, Option.bind_some]
        dsimp only
        cases (if "0x".toList.isPrefixOf encoded.toList then _ else _ : Option Nat) with
        | none => exact ⟨nofun, nofun⟩
        | some number =>
          exact ⟨fun same => congrArg some (Except.ok.inj same),
            fun same => congrArg Except.ok (Option.some.inj same)⟩

variable (serde body) in
/-- A number is returned for answers of successful executions only, and for all of those whose
first stack entry is one. -/
def SeqnoOfSuccess : Prop :=
  (∀ seqno, parseSeqno serde body = .ok seqno →
    ∃ value, serde.fromSlice body = .ok value ∧ getMethodSucceeded value = true) ∧
  ∀ value, serde.fromSlice body = .ok value → getMethodSucceeded value = true →
    ∀ seqno, stackSeqno value = some seqno → parseSeqno serde body = .ok seqno

/-- The parser follows the rule exactly for answers that have no number on the stack or a clear
report. -/
theorem seqno_of_success_iff (serde : Serde) (body : serde.Body) :
    SeqnoOfSuccess serde body ↔ ∀ value, serde.fromSlice body = .ok value →
      stackSeqno value = none ∨ clearReport value = true := by
  cases read : serde.fromSlice body with
  | error reason =>
    have failed : ∀ seqno, parseSeqno serde body ≠ .ok seqno := by
      intro seqno parsed
      obtain ⟨value, opened, -⟩ := except_bind_eq_ok.mp parsed
      rw [read] at opened
      cases opened
    rw [SeqnoOfSuccess, read]
    exact ⟨fun _ => nofun, fun _ => ⟨fun seqno parsed => absurd parsed (failed seqno), nofun⟩⟩
  | ok value =>
    simp only [SeqnoOfSuccess, read, parseSeqno_eq_ok read, Except.ok.injEq, exists_eq_left',
      forall_eq', getMethodSucceeded, clearReport]
    cases stackSeqno value with
    | none => simp
    | some seqno =>
      cases value.get "error" with
      | none => simp
      | some error => simp [imp_iff_not_or]

/-- The two failures: a number from a refused execution that exited with code 11, and a
successful answer with a null error that is refused. -/
theorem seqno_of_failed_execution :
    let serde : Serde := ⟨Json, .ok, fun _ => ""⟩
    let stack := Json.arr [.arr [.str "num", .str "0x5"]]
    let failed : Json := .obj [("ok", .bool false), ("result", .obj [("stack", stack),
      ("exit_code", .num (.posInt 11 (by decide)))])]
    let succeeded : Json := .obj [("ok", .bool true), ("error", .null),
      ("result", .obj [("stack", stack), ("exit_code", .num (.posInt 0 (by decide)))])]
    parseSeqno serde failed = .ok 5 ∧ getMethodSucceeded failed = false ∧
      getMethodSucceeded succeeded = true ∧ stackSeqno succeeded = some 5 ∧
      (parseSeqno serde succeeded).isOk = false := by
  decide +kernel

end WalletEngine
