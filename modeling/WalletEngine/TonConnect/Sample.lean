import WalletEngine.TonConnect.Plain
import WalletEngine.TonConnect.Sse

/-! # A sample session

The keys of a session, the requests that its peer would send, and libraries in which a message
of the peer is short. -/

namespace WalletEngine

namespace Sample

def peer : ClientId := ⟨Vector.replicate 32 7⟩

def secretKey : Vector UInt8 32 := Vector.replicate 32 5

/-- A request of the peer in a box. -/
def boxed (request : AppRequest) : List UInt8 :=
  List.replicate 40 0 ++
    utf8 (plainLibraries.printJson ((Wire.codec : Codec AppRequest).encode request))

section Reading

variable (request : AppRequest)

theorem depth_request : ((Wire.codec : Codec AppRequest).encode request).depth ≤ 2 := by
  have texts : ∀ texts : List String, Json.depthItems (texts.map .str) = 0 := by
    intro texts
    induction texts with
    | nil => rfl
    | cons text texts ih =>
      rw [List.map_cons, Json.depthItems, ih]
      rfl
  have spelt : (Wire.codec : Codec AppRequest).encode request = .obj [("method", .str request.method),
      ("params", .arr (request.params.map .str)), ("id", .str request.id)] := rfl
  rw [spelt]
  simp [Json.depth, Json.depthMembers, texts]

/-- Any session opens the box. -/
theorem decrypt_boxed (crypto : SessionCrypto) (sender : ClientId) :
    crypto.decrypt plainLibraries sender (boxed request) =
      some (utf8 (plainLibraries.printJson ((Wire.codec : Codec AppRequest).encode request))) := by
  have long : 24 + 16 ≤ (boxed request).length := by simp [boxed]
  have opened : Plain.boxDecrypt ((boxed request).drop 24) = some
      (utf8 (plainLibraries.printJson ((Wire.codec : Codec AppRequest).encode request))) := by
    have split : (List.replicate 40 (0 : UInt8)).drop 24 = List.replicate 16 0 := rfl
    rw [boxed, List.drop_append_of_le_length (by simp), split, Plain.boxDecrypt,
      List.take_left' (by simp), if_pos rfl, List.drop_left' (by simp)]
  rw [SessionCrypto.decrypt, dif_pos long]
  exact opened

theorem parseJson_request :
    plainLibraries.parseJson (utf8 (plainLibraries.printJson
      ((Wire.codec : Codec AppRequest).encode request))) =
        some ((Wire.codec : Codec AppRequest).encode request) := by
  have shallow : ((Wire.codec : Codec AppRequest).encode request).depth ≤ jsonDepthLimit :=
    (depth_request request).trans (by decide)
  rw [plainLibraries.parseJson_printJson, if_pos shallow]
  exact congrArg some (Json.mapFloats_eq_self _)

theorem decode_request :
    (Wire.codec : Codec AppRequest).decode ((Wire.codec : Codec AppRequest).encode request) =
      .ok request := by
  have read := (Wire.codec : Codec AppRequest).decode_encode id request
  rw [Json.mapFloats_eq_self] at read
  exact read

end Reading

section Short

/-- Two documents with a spelling of one letter: a message of the peer, and the request in it. -/
def parseJson (bytes : List UInt8) : Option Json :=
  if bytes = utf8 "x" then
    some (.obj [("from", .str peer.toText),
      ("message", .str (String.ofList (List.replicate 80 '0' ++ ['7', '9'])))])
  else if bytes = utf8 "y" then
    some (.obj [("method", .str "ping"), ("params", .arr []), ("id", .str "07")])
  else Plain.parseJson bytes

theorem parseJson_printJson (json : Json) :
    parseJson (utf8 (Plain.printJson json)) = Plain.parseJson (utf8 (Plain.printJson json)) := by
  have other : ∀ mark ∈ ['x', 'y'],
      utf8 (Plain.printJson json) ≠ utf8 (String.ofList [mark]) := by
    intro mark listed same
    have spelt := congrArg (fun bytes : List UInt8 => String.fromUTF8? ⟨bytes.toArray⟩) same
    simp only [fromUTF8_utf8, Option.some.injEq] at spelt
    have first : (Plain.print json).head? = some mark := by
      rw [String.ofList_injective spelt]
      rfl
    rcases json with _ | (_ | _) | (_ | _ | _) | _ | _ | _ <;>
      rw [Plain.print, List.head?_cons, Option.some.injEq] at first <;>
      rw [← first] at listed <;> simp at listed
  rw [parseJson, if_neg (other 'x' (by simp)), if_neg (other 'y' (by simp))]

def libraries : Libraries :=
  { plainLibraries with
    parseJson
    parseJson_printJson := fun json =>
      (parseJson_printJson json).trans (Plain.parseJson_printJson json)
    parseJson_nil := by decide +kernel
    parseJson_depth := fun {bytes json} read => by
      unfold parseJson at read
      split at read
      · cases read
        decide
      · split at read
        · cases read
          decide
        · exact Plain.parseJson_depth read }

end Short

end Sample

end WalletEngine
