import WalletEngine.TonConnect.DeepLink

/-! # Links as start parameters

A start parameter of Telegram may hold letters, digits, hyphens and underscores only, so the
other characters of a link's query are replaced by sequences of these. The separator becomes one
hyphen and the percent sign two, and three hyphens are read as a percent sign and a separator:
the query comes back exactly if no percent sign follows a separator in the text that is sent. -/

namespace WalletEngine

section Substitutions

def encodeTelegram (parameters : List Char) : List Char :=
  parameters
    |> replaceText ['.'] ['%', '2', 'E']
    |> replaceText ['-'] ['%', '2', 'D']
    |> replaceText ['_'] ['%', '5', 'F']
    |> replaceText ['&'] ['-']
    |> replaceText ['='] ['_', '_']
    |> replaceText ['%'] ['-', '-']

def decodeTelegram (parameters : List Char) : List Char :=
  parameters
    |> replaceText ['-', '-'] ['%']
    |> replaceText ['_', '_'] ['=']
    |> replaceText ['-'] ['&']
    |> replaceText ['%', '5', 'F'] ['_']
    |> replaceText ['%', '2', 'D'] ['-']
    |> replaceText ['%', '2', 'E'] ['.']

/-- Encode a query for the `startapp` transport. -/
def encodeTelegramUrlParameters (parameters : String) : String :=
  String.ofList (encodeTelegram parameters.toList)

/-- Undo the substitutions of the `startapp` transport. -/
def decodeTelegramUrlParameters (parameters : String) : String :=
  String.ofList (decodeTelegram parameters.toList)

end Substitutions

section Pieces

/-- The bytes that are sent without a hyphen. -/
def telegramPlain (byte : UInt8) : Bool :=
  let c := Char.ofNat byte.toNat
  c.isAlphanum || c == '*' || c == ' '

/-- The pieces of a query. A separator is taken together with what follows it. -/
inductive QueryPiece where
  | byte (value : UInt8)
  | assign
  | nextByte (value : UInt8)
  | nextAssign

def QueryPiece.spelling : QueryPiece → List Char
  | .byte value => formByte value
  | .assign => ['=']
  | .nextByte value => '&' :: formByte value
  | .nextAssign => ['&', '=']

def textPieces (text : String) : List QueryPiece :=
  (utf8 text).map .byte

def pairPieces (pair : String × String) : List QueryPiece :=
  textPieces pair.1 ++ .assign :: textPieces pair.2

/-- The pieces of a pair behind another one. -/
def nextPieces (pair : String × String) : List QueryPiece :=
  match utf8 pair.1 with
  | [] => .nextAssign :: textPieces pair.2
  | first :: rest => .nextByte first :: (rest.map .byte ++ .assign :: textPieces pair.2)

def queryPieces : List (String × String) → List QueryPiece
  | [] => []
  | first :: rest => pairPieces first ++ rest.flatMap nextPieces

theorem spelling_textPieces (text : String) :
    (textPieces text).flatMap QueryPiece.spelling = formText text := by
  rw [textPieces, List.flatMap_map]
  rfl

theorem spelling_pairPieces (pair : String × String) :
    (pairPieces pair).flatMap QueryPiece.spelling = formPair pair := by
  rw [pairPieces, List.flatMap_append, List.flatMap_cons, spelling_textPieces, spelling_textPieces]
  rfl

theorem spelling_nextPieces (pair : String × String) :
    (nextPieces pair).flatMap QueryPiece.spelling = '&' :: formPair pair := by
  have whole := spelling_pairPieces pair
  rw [pairPieces, textPieces] at whole
  rw [← whole, nextPieces]
  cases utf8 pair.1 <;> rfl

theorem spelling_queryPieces (pairs : List (String × String)) :
    (queryPieces pairs).flatMap QueryPiece.spelling = formQuery pairs := by
  cases pairs with
  | nil => rfl
  | cons first rest =>
    rw [queryPieces, List.flatMap_append, spelling_pairPieces, List.flatMap_assoc, formQuery]
    simp only [spelling_nextPieces]
    induction rest generalizing first with
    | nil => simp
    | cons second rest ih =>
      rw [List.map_cons, List.map_cons, List.intercalate_cons_cons, ← List.map_cons, ← ih second]
      simp

end Pieces

section Stages

def hexPair (byte : UInt8) : List Char :=
  [upperDigit (byte.toNat / 16), upperDigit (byte.toNat % 16)]

/-- The pieces in one of the spellings between the substitutions. A byte that is not plain may
be spelt in another way behind a separator. -/
def QueryPiece.render (separator assign : List Char) (spell behind : UInt8 → List Char) :
    QueryPiece → List Char
  | .byte value => spell value
  | .assign => assign
  | .nextByte value => if telegramPlain value then separator ++ spell value else behind value
  | .nextAssign => separator ++ assign

def telegramByte (byte : UInt8) : List Char :=
  if telegramPlain byte then formByte byte else '-' :: '-' :: hexPair byte

/-- All bytes that are not plain by their values, except for some that are restored. -/
def restoredByte (restored : List UInt8) (byte : UInt8) : List Char :=
  if byte ∈ restored then [Char.ofNat byte.toNat]
  else if telegramPlain byte then formByte byte else percentByte byte

/-- Behind a separator the percent sign comes first. -/
def displacedByte (separator : Char) (byte : UInt8) : List Char :=
  '%' :: separator :: hexPair byte

theorem encodeTelegram_append (first second : List Char) :
    encodeTelegram (first ++ second) = encodeTelegram first ++ encodeTelegram second := by
  simp only [encodeTelegram, replaceText_singleton, List.flatMap_append]

theorem encodeTelegram_formByte : ∀ byte, encodeTelegram (formByte byte) = telegramByte byte :=
  forall_byte (by decide +kernel)

theorem encodeTelegram_spelling (piece : QueryPiece) : encodeTelegram piece.spelling =
    piece.render ['-'] ['_', '_'] telegramByte fun byte => '-' :: telegramByte byte := by
  cases piece with
  | byte value => exact encodeTelegram_formByte value
  | assign => rfl
  | nextByte value =>
    rw [QueryPiece.spelling, ← List.singleton_append, encodeTelegram_append,
      encodeTelegram_formByte, QueryPiece.render]
    split <;> rfl
  | nextAssign => rfl

theorem encodeTelegram_pieces (pieces : List QueryPiece) :
    encodeTelegram (pieces.flatMap QueryPiece.spelling) = pieces.flatMap
      (QueryPiece.render ['-'] ['_', '_'] telegramByte fun byte => '-' :: telegramByte byte) := by
  induction pieces with
  | nil => rfl
  | cons piece pieces ih =>
    rw [List.flatMap_cons, encodeTelegram_append, encodeTelegram_spelling, ih, List.flatMap_cons]

/-- The characters that the substitutions look for do not occur in a plain byte or a value. -/
theorem formByte_plain : ∀ byte, telegramPlain byte = true →
    '-' ∉ formByte byte ∧ '_' ∉ formByte byte ∧ '%' ∉ formByte byte ∧ formByte byte ≠ [] :=
  forall_byte (by decide +kernel)

theorem hexPair_free : ∀ byte, '-' ∉ hexPair byte ∧ '&' ∉ hexPair byte ∧ '%' ∉ hexPair byte :=
  forall_byte (by decide +kernel)

theorem restoredByte_nil (byte : UInt8) : restoredByte [] byte =
    if telegramPlain byte then formByte byte else percentByte byte :=
  if_neg List.not_mem_nil

/-- One hyphen in front of another character stays. -/
theorem replaceText_hyphen {text : List Char} (nonempty : text ≠ []) (free : '-' ∉ text)
    (rest : List Char) : replaceText ['-', '-'] ['%'] ('-' :: (text ++ rest)) =
      '-' :: (text ++ replaceText ['-', '-'] ['%'] rest) := by
  obtain ⟨c, text, rfl⟩ := List.exists_cons_of_ne_nil nonempty
  rw [replaceText_cons, replaceText_free free]
  rintro ⟨_, same⟩
  exact (List.ne_and_not_mem_of_not_mem_cons free).1 (List.cons.inj (List.cons.inj same).2).1

/-- The first substitution reads two hyphens, and the first two of three. -/
theorem replaceText_hyphens (piece : QueryPiece) (rest : List Char) :
    replaceText ['-', '-'] ['%']
        (piece.render ['-'] ['_', '_'] telegramByte (fun byte => '-' :: telegramByte byte) ++ rest) =
      piece.render ['-'] ['_', '_'] (restoredByte []) (displacedByte '-') ++
        replaceText ['-', '-'] ['%'] rest := by
  have pair : ∀ text, replaceText ['-', '-'] ['%'] ('-' :: '-' :: text) =
      '%' :: replaceText ['-', '-'] ['%'] text := replaceText_append (List.cons_ne_nil _ _)
  cases piece with
  | byte value =>
    simp only [QueryPiece.render, restoredByte_nil, telegramByte]
    split
    · next plain => exact replaceText_free (formByte_plain value plain).1 rest
    · exact (pair _).trans (congrArg (List.cons '%') (replaceText_free (hexPair_free value).1 rest))
  | assign => exact replaceText_free (show '-' ∉ ['_', '_'] by decide) rest
  | nextByte value =>
    simp only [QueryPiece.render, restoredByte_nil, telegramByte]
    split
    · next plain =>
        obtain ⟨free, -, -, nonempty⟩ := formByte_plain value plain
        exact replaceText_hyphen nonempty free rest
    · exact (pair _).trans (congrArg (List.cons '%')
        (replaceText_hyphen (List.cons_ne_nil _ _) (hexPair_free value).1 rest))
  | nextAssign => exact replaceText_hyphen (List.cons_ne_nil _ _) (by decide) rest

theorem restoredByte_free : ∀ byte, '-' ∉ restoredByte [] byte ∧ '_' ∉ restoredByte [] byte :=
  forall_byte (by decide +kernel)

theorem displacedByte_free : ∀ byte, '_' ∉ displacedByte '-' byte :=
  forall_byte (by decide +kernel)

theorem replaceText_underscores (piece : QueryPiece) (rest : List Char) :
    replaceText ['_', '_'] ['=']
        (piece.render ['-'] ['_', '_'] (restoredByte []) (displacedByte '-') ++ rest) =
      piece.render ['-'] ['='] (restoredByte []) (displacedByte '-') ++
        replaceText ['_', '_'] ['='] rest := by
  have pair : ∀ text, replaceText ['_', '_'] ['='] ('_' :: '_' :: text) =
      '=' :: replaceText ['_', '_'] ['='] text := replaceText_append (List.cons_ne_nil _ _)
  have hyphen : ∀ text, replaceText ['_', '_'] ['='] ('-' :: text) =
      '-' :: replaceText ['_', '_'] ['='] text :=
    replaceText_free (show '_' ∉ ['-'] by decide)
  cases piece with
  | byte value => exact replaceText_free (restoredByte_free value).2 rest
  | assign => exact pair rest
  | nextByte value =>
    simp only [QueryPiece.render]
    split
    · exact (hyphen _).trans
        (congrArg (List.cons '-') (replaceText_free (restoredByte_free value).2 rest))
    · exact replaceText_free (displacedByte_free value) rest
  | nextAssign => exact (hyphen _).trans (congrArg (List.cons '-') (pair rest))

theorem replaceText_separator (piece : QueryPiece) (rest : List Char) :
    replaceText ['-'] ['&']
        (piece.render ['-'] ['='] (restoredByte []) (displacedByte '-') ++ rest) =
      piece.render ['&'] ['='] (restoredByte []) (displacedByte '&') ++
        replaceText ['-'] ['&'] rest := by
  have hyphen : ∀ text, replaceText ['-'] ['&'] ('-' :: text) = '&' :: replaceText ['-'] ['&'] text :=
    replaceText_append (List.cons_ne_nil _ _)
  cases piece with
  | byte value => exact replaceText_free (restoredByte_free value).1 rest
  | assign => exact replaceText_free (show '-' ∉ ['='] by decide) rest
  | nextByte value =>
    simp only [QueryPiece.render]
    split
    · exact (hyphen _).trans
        (congrArg (List.cons '&') (replaceText_free (restoredByte_free value).1 rest))
    · have percent : replaceText ['-'] ['&'] ('%' :: '-' :: (hexPair value ++ rest)) =
          '%' :: replaceText ['-'] ['&'] ('-' :: (hexPair value ++ rest)) :=
        replaceText_free (show '-' ∉ ['%'] by decide) _
      rw [hyphen, replaceText_free (hexPair_free value).1] at percent
      exact percent
  | nextAssign => exact (hyphen _).trans (congrArg (List.cons '&')
      (replaceText_free (show '-' ∉ ['='] by decide) rest))

/-- A byte's value starts no text that another byte's value starts. -/
theorem percentByte_of_append {first second : UInt8} {rest : List Char}
    (starts : percentByte first <+: percentByte second ++ rest) : first = second := by
  obtain ⟨_, same⟩ := starts
  have bytes := congrArg formBytes same
  rw [formBytes_percentByte, formBytes_percentByte] at bytes
  exact (List.cons.inj bytes).1

/-- The last substitutions restore one byte each. -/
theorem replaceText_restore {code : UInt8} {restored : List UInt8} (escaped : telegramPlain code = false)
    (plain : ∀ byte ∈ restored, Char.ofNat byte.toNat ≠ '%') (fresh : code ∉ restored)
    (piece : QueryPiece) (rest : List Char) :
    replaceText (percentByte code) [Char.ofNat code.toNat]
        (piece.render ['&'] ['='] (restoredByte restored) (displacedByte '&') ++ rest) =
      piece.render ['&'] ['='] (restoredByte (code :: restored)) (displacedByte '&') ++
        replaceText (percentByte code) [Char.ofNat code.toNat] rest := by
  have free : ∀ {text : List Char}, '%' ∉ text → ∀ rest,
      replaceText (percentByte code) [Char.ofNat code.toNat] (text ++ rest) =
        text ++ replaceText (percentByte code) [Char.ofNat code.toNat] rest :=
    fun absent rest => replaceText_free absent rest
  have percent : ∀ {text : List Char}, '%' ∉ text → ∀ rest,
      ¬ percentByte code <+: '%' :: (text ++ rest) →
        replaceText (percentByte code) [Char.ofNat code.toNat] ('%' :: (text ++ rest)) =
          '%' :: (text ++ replaceText (percentByte code) [Char.ofNat code.toNat] rest) :=
    fun absent rest other =>
      (replaceText_cons other).trans (congrArg (List.cons '%') (free absent rest))
  have byte : ∀ value rest, replaceText (percentByte code) [Char.ofNat code.toNat]
      (restoredByte restored value ++ rest) = restoredByte (code :: restored) value ++
        replaceText (percentByte code) [Char.ofNat code.toNat] rest := by
    intro value rest
    by_cases same : value = code
    · subst same
      rw [restoredByte, if_neg fresh, if_neg (by simp [escaped]), restoredByte,
        if_pos List.mem_cons_self]
      exact replaceText_append (List.cons_ne_nil _ _) rest
    · have others : value ∈ code :: restored ↔ value ∈ restored := by simp [same]
      simp only [restoredByte, others]
      split
      · next member => exact free (by simpa using (plain value member).symm) rest
      · split
        · next plain => exact free (formByte_plain value plain).2.2.1 rest
        · exact percent (hexPair_free value).2.2 rest fun starts =>
            same (percentByte_of_append starts).symm
  cases piece with
  | byte value => exact byte value rest
  | assign => exact free (show '%' ∉ ['='] by decide) rest
  | nextByte value =>
    simp only [QueryPiece.render]
    split
    · exact (free (show '%' ∉ ['&'] by decide) _).trans (congrArg (List.cons '&') (byte value rest))
    · have absent : '%' ∉ '&' :: hexPair value := by
        simpa using (hexPair_free value).2.2
      refine percent absent rest ?_
      rintro ⟨_, same⟩
      have digit := (List.cons.inj (List.cons.inj same).2).1
      exact (hexPair_free code).2.1 (digit ▸ List.mem_cons_self)
  | nextAssign => exact free (show '%' ∉ ['&', '='] by decide) rest

theorem restoredByte_marks : restoredByte [0x2E, 0x2D, 0x5F] = formByte :=
  funext (forall_byte (by decide +kernel))

/-- What a query becomes: a percent sign behind a separator changes places with it. -/
theorem decodeTelegram_encodeTelegram (pieces : List QueryPiece) :
    decodeTelegram (encodeTelegram (pieces.flatMap QueryPiece.spelling)) =
      pieces.flatMap (QueryPiece.render ['&'] ['='] formByte (displacedByte '&')) := by
  have underscore : ∀ text, replaceText ['%', '5', 'F'] ['_'] text =
      replaceText (percentByte 0x5F) [Char.ofNat (0x5F : UInt8).toNat] text := fun _ => rfl
  have hyphen : ∀ text, replaceText ['%', '2', 'D'] ['-'] text =
      replaceText (percentByte 0x2D) [Char.ofNat (0x2D : UInt8).toNat] text := fun _ => rfl
  have point : ∀ text, replaceText ['%', '2', 'E'] ['.'] text =
      replaceText (percentByte 0x2E) [Char.ofNat (0x2E : UInt8).toNat] text := fun _ => rfl
  rw [encodeTelegram_pieces, decodeTelegram,
    replaceText_flatMap fun piece _ => replaceText_hyphens piece,
    replaceText_flatMap fun piece _ => replaceText_underscores piece,
    replaceText_flatMap fun piece _ => replaceText_separator piece, underscore,
    replaceText_flatMap fun piece _ =>
      replaceText_restore (by decide) (by simp) (by decide) piece, hyphen,
    replaceText_flatMap fun piece _ =>
      replaceText_restore (by decide) (by simp) (by decide) piece, point,
    replaceText_flatMap fun piece _ =>
      replaceText_restore (by decide) (by simp) (by decide) piece, restoredByte_marks]

theorem spelling_eq_iff (pieces : List QueryPiece) :
    pieces.flatMap (QueryPiece.render ['&'] ['='] formByte (displacedByte '&')) =
        pieces.flatMap QueryPiece.spelling ↔
      ∀ value, QueryPiece.nextByte value ∈ pieces → telegramPlain value = true := by
  induction pieces with
  | nil => simp
  | cons piece pieces ih =>
    rw [List.flatMap_cons, List.flatMap_cons]
    cases piece with
    | nextByte value =>
      by_cases plain : telegramPlain value = true
      · rw [QueryPiece.render, if_pos plain, QueryPiece.spelling, List.singleton_append,
          List.append_cancel_left_eq, ih]
        simp [plain]
      · rw [QueryPiece.render, if_neg plain]
        constructor
        · intro same
          cases (List.cons.inj same).1
        · exact fun all => absurd (all value List.mem_cons_self) plain
    | _ => simpa [QueryPiece.render, QueryPiece.spelling] using ih

end Stages

section Queries

/-- A name that is empty or starts with a letter, a digit, an asterisk or a space. -/
def startsPlain (name : String) : Bool :=
  (utf8 name).head?.all telegramPlain

theorem nextByte_mem_nextPieces {pair : String × String} {value : UInt8} :
    QueryPiece.nextByte value ∈ nextPieces pair ↔ (utf8 pair.1).head? = some value := by
  unfold nextPieces textPieces
  cases utf8 pair.1 <;> simp [eq_comm]

theorem nextByte_mem_queryPieces {first : String × String} {rest : List (String × String)} :
    (∀ value, QueryPiece.nextByte value ∈ queryPieces (first :: rest) →
      telegramPlain value = true) ↔ ∀ pair ∈ rest, startsPlain pair.1 = true := by
  have unseparated : ∀ value, QueryPiece.nextByte value ∉ pairPieces first := by
    simp [pairPieces, textPieces]
  simp only [queryPieces, List.mem_append, unseparated, false_or, List.mem_flatMap,
    nextByte_mem_nextPieces, startsPlain, Option.all_eq_true]
  constructor
  · exact fun all pair listed value head => all value ⟨pair, listed, head⟩
  · rintro all value ⟨pair, listed, head⟩
    exact all pair listed value head

variable {lib : Libraries}

/-- The known parameters all start with a letter. -/
theorem ConnectLink.startsPlain_pairs (link : ConnectLink lib) (text : String) :
    ∃ first rest, link.pairs text = first :: rest ∧
      ((∀ pair ∈ rest, startsPlain pair.1 = true) ↔
        ∀ pair ∈ link.extensions, startsPlain pair.1 = true) := by
  obtain ⟨clientId, request, returnStrategy, embeddedRequest, traceId, extensions, unknown⟩ := link
  obtain ⟨id, r, ret, e, trace⟩ : startsPlain "id" = true ∧ startsPlain "r" = true ∧
      startsPlain "ret" = true ∧ startsPlain "e" = true ∧ startsPlain "trace_id" = true := by
    decide +kernel
  cases request <;> cases traceId <;> cases embeddedRequest <;>
    exact ⟨_, _, rfl, by simp [id, r, ret, e, trace]⟩

/-- **When a link survives the transport.** The query that a link is written with comes back from
the substitutions exactly if no parameter of a later version has a name that starts with another
character than a letter, a digit, an asterisk or a space. -/
theorem telegram_reverses_iff {link : ConnectLink lib} {baseUrl : String} {url : Url}
    (written : link.toUrl baseUrl = .ok url) :
    ∃ query, url.query = some query ∧
      (decodeTelegramUrlParameters (encodeTelegramUrlParameters query) = query ↔
        ∀ pair ∈ link.extensions, startsPlain pair.1 = true) := by
  obtain ⟨base, -, written⟩ := except_bind_eq_ok.mp written
  obtain ⟨plain, written⟩ := except_guard_eq_ok.mp written
  obtain ⟨-, written⟩ := except_guard_eq_ok.mp written
  obtain ⟨text, -, same⟩ := except_bind_eq_ok.mp written
  cases same
  obtain ⟨first, rest, pairs, names⟩ := link.startsPlain_pairs text
  have query : base.query = none := by simpa using (not_or.mp plain).1
  refine ⟨_, lib.appendPairs_query query (pairs ▸ List.cons_ne_nil _ _), ?_⟩
  rw [← names, ← nextByte_mem_queryPieces, ← spelling_eq_iff, ← decodeTelegram_encodeTelegram,
    ← pairs, spelling_queryPieces, decodeTelegramUrlParameters, encodeTelegramUrlParameters,
    String.toList_ofList, String.toList_ofList]
  constructor
  · exact fun same => String.ofList_injective same
  · exact fun same => congrArg String.ofList same

namespace Plain

/-- A reduced link with one parameter of a later version. -/
def reducedLink (name : String) (unknown : name ∉ linkParameters) : ConnectLink plainLibraries where
  clientId := ⟨Vector.replicate 32 7⟩
  request := none
  returnStrategy := .back
  embeddedRequest := none
  traceId := none
  extensions := [(name, "1")]
  unknown := by simpa using unknown

end Plain

theorem telegram_reverses_plain : ∃ url, Plain.link.toUrl "tc://connect" = .ok url ∧
    ∃ query, url.query = some query ∧
      decodeTelegramUrlParameters (encodeTelegramUrlParameters query) = query := by
  obtain ⟨query, found, reverses⟩ := telegram_reverses_iff
    (show Plain.link.toUrl "tc://connect" = .ok _ from rfl)
  exact ⟨_, rfl, query, found, reverses.mpr (by decide +kernel)⟩

/-- The name `-x` starts with a percent sign behind its separator. -/
theorem telegram_displaces : ∃ (value : String) (link : ConnectLink plainLibraries),
    ConnectLink.parse plainLibraries value = .ok link ∧ link.extensions = [("-x", "1")] ∧
      ∃ url query, link.toUrl "tc://connect" = .ok url ∧ url.query = some query ∧
        decodeTelegramUrlParameters (encodeTelegramUrlParameters query) ≠ query := by
  let link := Plain.reducedLink "-x" (by decide)
  have writable : link.Writable :=
    ⟨fun _ asked => (by cases asked), by decide, none, rfl⟩
  have parsed := ConnectLink.parse_written (fun _ => rfl) writable
    (show parseReturnStrategy plainLibraries (some "back") = .ok .back from rfl)
    (show plainLibraries.parseUrl "tc://connect" = some _ from rfl) rfl rfl
  exact ⟨_, link, parsed, rfl, _, _, rfl, rfl, by decide +kernel⟩

end Queries

end WalletEngine
