import WalletEngine.TonConnect.Values

/-! # A plain choice of libraries

Libraries without cryptography that have every property relied on. Binary texts are spelt in
hexadecimal and documents in a format with one mark for each kind of value. -/

namespace WalletEngine

namespace Plain

section Documents

/-- A text as the hexadecimal spelling of its bytes with a mark at the end. -/
def printText (text : String) : List Char :=
  hexEncode (utf8 text) ++ [';']

def parseText (chars : List Char) : Option (String × List Char) := do
  let (digits, rest) ← splitOnce ';' chars
  let bytes ← hexDecode digits
  let text ← String.fromUTF8? ⟨bytes.toArray⟩
  return (text, rest)

mutual

def print : Json → List Char
  | .null => ['n']
  | .bool true => ['t']
  | .bool false => ['f']
  | .num (.posInt value _) => 'p' :: printText (toString value)
  | .num (.negInt magnitude _) => 'm' :: printText (toString magnitude)
  | .num (.float literal) => 'd' :: printText literal
  | .str text => 's' :: printText text
  | .arr items => '[' :: printItems items
  | .obj members => '<' :: printMembers members

def printItems : List Json → List Char
  | [] => [']']
  | item :: items => ',' :: (print item ++ printItems items)

def printMembers : List (String × Json) → List Char
  | [] => ['>']
  | (name, value) :: members => ',' :: (printText name ++ (print value ++ printMembers members))

end

def parseNumber (make : Nat → Option JsonNumber) (chars : List Char) : Option (Json × List Char) := do
  let (digits, rest) ← parseText chars
  let number ← make (decimalValue digits.toList)
  return (.num number, rest)

def posInt? (value : Nat) : Option JsonNumber :=
  if machine : value < 2 ^ 64 then some (.posInt value machine) else none

def negInt? (magnitude : Nat) : Option JsonNumber :=
  if machine : magnitude ≤ 2 ^ 63 then some (.negInt magnitude machine) else none

mutual

def parse : Nat → List Char → Option (Json × List Char)
  | 0, _ => none
  | _ + 1, 'n' :: rest => some (.null, rest)
  | _ + 1, 't' :: rest => some (.bool true, rest)
  | _ + 1, 'f' :: rest => some (.bool false, rest)
  | _ + 1, 'p' :: rest => parseNumber posInt? rest
  | _ + 1, 'm' :: rest => parseNumber negInt? rest
  | _ + 1, 'd' :: rest => (parseText rest).map fun (literal, rest) => (.num (.float literal), rest)
  | _ + 1, 's' :: rest => (parseText rest).map fun (text, rest) => (.str text, rest)
  | fuel + 1, '[' :: rest => (parseItems fuel rest).map fun (items, rest) => (.arr items, rest)
  | fuel + 1, '<' :: rest => (parseMembers fuel rest).map fun (members, rest) => (.obj members, rest)
  | _ + 1, _ => none

def parseItems : Nat → List Char → Option (List Json × List Char)
  | 0, _ => none
  | _ + 1, ']' :: rest => some ([], rest)
  | fuel + 1, ',' :: rest => do
      let (item, rest) ← parse fuel rest
      let (items, rest) ← parseItems fuel rest
      return (item :: items, rest)
  | _ + 1, _ => none

def parseMembers : Nat → List Char → Option (List (String × Json) × List Char)
  | 0, _ => none
  | _ + 1, '>' :: rest => some ([], rest)
  | fuel + 1, ',' :: rest => do
      let (name, rest) ← parseText rest
      let (value, rest) ← parse fuel rest
      let (members, rest) ← parseMembers fuel rest
      return ((name, value) :: members, rest)
  | _ + 1, _ => none

end

theorem parseText_printText (text : String) (rest : List Char) :
    parseText (printText text ++ rest) = some (text, rest) := by
  have free : ∀ c ∈ hexEncode (utf8 text), c ≠ ';' := by
    rintro c member rfl
    exact absurd (isLowerHex_of_mem_hexEncode member) (by decide)
  have split : splitOnce ';' (printText text ++ rest) = some (hexEncode (utf8 text), rest) := by
    rw [printText, List.append_assoc]
    exact splitOnce_append free
  simp only [parseText, split, Option.bind_eq_bind, Option.bind_some, hexDecode_hexEncode,
    fromUTF8_utf8]
  rfl

theorem parseNumber_printText {make : Nat → Option JsonNumber} {value : Nat} {number : JsonNumber}
    (made : make value = some number) (rest : List Char) :
    parseNumber make (printText (toString value) ++ rest) = some (.num number, rest) := by
  simp only [parseNumber, parseText_printText, Option.bind_eq_bind, Option.bind_some,
    decimalValue_toString, made]
  rfl

/-- A document is read back in front of anything, given as many steps as it has characters. -/
def Reads (json : Json) : Prop :=
  ∀ fuel rest, (print json).length < fuel → parse fuel (print json ++ rest) = some (json, rest)

theorem reads_items {items : List Json} (reads : ∀ item ∈ items, Reads item) (fuel : Nat)
    (rest : List Char) (enough : (printItems items).length < fuel) :
    parseItems fuel (printItems items ++ rest) = some (items, rest) := by
  induction items generalizing fuel with
  | nil =>
    obtain ⟨fuel, rfl⟩ := Nat.exists_eq_add_of_lt enough
    rfl
  | cons item items ih =>
    obtain ⟨first, others⟩ := List.forall_mem_cons.mp reads
    cases fuel with
    | zero => exact absurd enough (Nat.not_lt_zero _)
    | succ fuel =>
      simp only [printItems, List.length_cons, List.length_append] at enough
      rw [printItems, List.cons_append, List.append_assoc, parseItems,
        first fuel _ (by omega)]
      change (parseItems fuel (printItems items ++ rest) >>= _) = _
      rw [ih others fuel (by omega)]
      rfl

theorem reads_members {members : List (String × Json)} (reads : ∀ member ∈ members, Reads member.2)
    (fuel : Nat) (rest : List Char) (enough : (printMembers members).length < fuel) :
    parseMembers fuel (printMembers members ++ rest) = some (members, rest) := by
  induction members generalizing fuel with
  | nil =>
    obtain ⟨fuel, rfl⟩ := Nat.exists_eq_add_of_lt enough
    rfl
  | cons member members ih =>
    obtain ⟨name, value⟩ := member
    obtain ⟨first, others⟩ := List.forall_mem_cons.mp reads
    cases fuel with
    | zero => exact absurd enough (Nat.not_lt_zero _)
    | succ fuel =>
      simp only [printMembers, List.length_cons, List.length_append] at enough
      rw [printMembers, List.cons_append, List.append_assoc, List.append_assoc, parseMembers,
        parseText_printText]
      change (parse fuel (print value ++ (printMembers members ++ rest)) >>= _) = _
      rw [first fuel _ (show (print value).length < fuel by omega)]
      change (parseMembers fuel (printMembers members ++ rest) >>= _) = _
      rw [ih others fuel (by omega)]
      rfl

theorem reads_of_step {json : Json} (step : ∀ fuel rest, (print json).length ≤ fuel →
    parse (fuel + 1) (print json ++ rest) = some (json, rest)) : Reads json := by
  intro fuel rest enough
  cases fuel with
  | zero => exact absurd enough (Nat.not_lt_zero _)
  | succ fuel => exact step fuel rest (Nat.le_of_lt_succ enough)

theorem reads (json : Json) : Reads json := by
  induction json using Json.inductionOn with
  | null => exact reads_of_step fun _ _ _ => rfl
  | bool value => cases value <;> exact reads_of_step fun _ _ _ => rfl
  | num number =>
    refine reads_of_step fun fuel rest _ => ?_
    cases number with
    | posInt value machine => exact parseNumber_printText (dif_pos machine) rest
    | negInt magnitude machine => exact parseNumber_printText (dif_pos machine) rest
    | float literal =>
      change (parseText (printText literal ++ rest)).map _ = _
      rw [parseText_printText]
      rfl
  | str text =>
    refine reads_of_step fun fuel rest _ => ?_
    change (parseText (printText text ++ rest)).map _ = _
    rw [parseText_printText]
    rfl
  | arr items ih =>
    refine reads_of_step fun fuel rest enough => ?_
    rw [print, List.length_cons] at enough
    change (parseItems fuel (printItems items ++ rest)).map _ = _
    rw [reads_items ih fuel rest enough]
    rfl
  | obj members ih =>
    refine reads_of_step fun fuel rest enough => ?_
    rw [print, List.length_cons] at enough
    change (parseMembers fuel (printMembers members ++ rest)).map _ = _
    rw [reads_members ih fuel rest enough]
    rfl

def printJson (json : Json) : String :=
  String.ofList (print json)

def parseJson (bytes : List UInt8) : Option Json := do
  let text ← String.fromUTF8? ⟨bytes.toArray⟩
  let (json, rest) ← parse (text.toList.length + 1) text.toList
  if rest = [] ∧ json.depth ≤ jsonDepthLimit then some json else none

theorem parseJson_printJson (json : Json) : parseJson (utf8 (printJson json)) =
    if json.depth ≤ jsonDepthLimit then some (json.mapFloats id) else none := by
  have whole := reads json ((print json).length + 1) [] (Nat.lt_succ_self _)
  rw [List.append_nil] at whole
  simp only [parseJson, printJson, fromUTF8_utf8, String.toList_ofList, whole,
    Option.bind_eq_bind, Option.bind_some, true_and, Json.mapFloats_eq_self]

theorem parseJson_depth {bytes : List UInt8} {json : Json} (read : parseJson bytes = some json) :
    json.depth ≤ jsonDepthLimit := by
  simp only [parseJson, Option.bind_eq_bind, Option.bind_eq_some_iff] at read
  obtain ⟨text, -, ⟨found, rest⟩, -, kept⟩ := read
  obtain ⟨fits, same⟩ := Option.ite_none_right_eq_some.mp kept
  exact Option.some.inj same ▸ fits.2

end Documents

section Libraries

/-- Bytes in hexadecimal, whatever alphabet is asked for. -/
def encodeBytes (bytes : List UInt8) : String :=
  String.ofList (hexEncode bytes)

def decodeBytes (text : String) : Option (List UInt8) :=
  hexDecode text.toList

theorem decodeBytes_encodeBytes (bytes : List UInt8) :
    decodeBytes (encodeBytes bytes) = some bytes := by
  rw [decodeBytes, encodeBytes, String.toList_ofList, hexDecode_hexEncode]

/-- A box is the plaintext behind sixteen zero bytes. -/
def boxEncrypt (plaintext : List UInt8) : Option (List UInt8) :=
  some (List.replicate 16 0 ++ plaintext)

def boxDecrypt (ciphertext : List UInt8) : Option (List UInt8) :=
  if ciphertext.take 16 = List.replicate 16 0 then some (ciphertext.drop 16) else none

/-- Every text is a URL, with its query behind the first question mark. -/
def parseUrl (text : String) : Url :=
  ⟨text, "https", true, false, "/", (splitOnce '?' text.toList).map fun parts => .ofList parts.2, none⟩

def appendPairs (url : Url) (pairs : List (String × String)) : Url :=
  let query := String.ofList (formQuery pairs)
  { url with text := url.text ++ "?" ++ query, query := some query }

def functions : LibraryFunctions where
  base64Decode _ _ := decodeBytes
  base64Encode _ _ := encodeBytes
  crc16 _ := 0
  singleRootBoc _ := true
  walletStateInit _ := true
  parseTonAddress _ := some ⟨0, 0⟩
  parseUrl text := some (parseUrl text)
  setPath url path := { url with path }
  appendPairs := appendPairs
  fromUtf8Lossy bytes := (String.fromUTF8? ⟨bytes.toArray⟩).getD ""
  parseJson := parseJson
  printJson := printJson
  reread := id
  publicKey := id
  boxEncrypt _ _ _ := boxEncrypt
  boxDecrypt _ _ _ := boxDecrypt

theorem parseUrl_appendPairs {text : String} (pairs : List (String × String))
    (plain : (parseUrl text).query = none) :
    parseUrl (appendPairs (parseUrl text) pairs).text = appendPairs (parseUrl text) pairs := by
  have free := splitOnce_eq_none_iff.mp (Option.map_eq_none_iff.mp plain)
  have split : splitOnce '?' (text ++ "?" ++ String.ofList (formQuery pairs)).toList =
      some (text.toList, formQuery pairs) := by
    simp only [String.toList_append, String.toList_ofList, List.append_assoc]
    exact splitOnce_append free
  have found : (parseUrl (text ++ "?" ++ String.ofList (formQuery pairs))).query =
      some (String.ofList (formQuery pairs)) := congrArg (Option.map _) split
  simp only [appendPairs, parseUrl] at found ⊢
  rw [found]

theorem decodeBase64_encodeBytes (bytes : List UInt8) :
    functions.decodeBase64 (encodeBytes bytes) = some bytes := by
  have standard : ((encodeBytes bytes).toList.any fun c => c == '+' || c == '/') = false := by
    rw [encodeBytes, String.toList_ofList, List.any_eq_false]
    intro c member
    have other := forall_mem_hexEncode (fun c => !(c == '+' || c == '/')) (by decide) member
    exact fun mark => by simp [mark] at other
  rw [LibraryFunctions.decodeBase64, standard]
  exact decodeBytes_encodeBytes bytes

end Libraries

end Plain

/-- The libraries spelt out. -/
def plainLibraries : Libraries where
  toLibraryFunctions := Plain.functions
  base64_standard := Plain.decodeBase64_encodeBytes
  base64_urlSafe := Plain.decodeBytes_encodeBytes
  base64_urlSafe_chars bytes c member := by
    have spelt : c ∈ (Plain.encodeBytes bytes).toList := member
    rw [Plain.encodeBytes, String.toList_ofList] at spelt
    exact .inl (forall_mem_hexEncode Char.isAlphanum (by decide) spelt)
  base64_urlSafe_nil := rfl
  parseTonAddress_friendly _ := rfl
  parseUrl_text found := by cases found; rfl
  appendPairs_query _ _ := rfl
  parseUrl_appendPairs pairs found plain _ := by
    cases found
    exact congrArg some (Plain.parseUrl_appendPairs pairs plain)
  fromUtf8Lossy_utf8 text := congrArg (Option.getD · "") (fromUTF8_utf8 text)
  parseJson_printJson := Plain.parseJson_printJson
  parseJson_nil := by decide +kernel
  parseJson_depth := Plain.parseJson_depth

end WalletEngine
