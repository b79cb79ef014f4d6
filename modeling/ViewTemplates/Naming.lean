import ViewTemplates.Text.Letter
import ViewTemplates.Text.Split

/-! Names: which names a view may have, the output format that a template name ends in, and the
words derived from view names for directories and resources. -/
namespace ViewTemplates.Naming

def isSegment : List Char → Bool
  | [] => false
  | c :: rest => Text.isAsciiUpper c && rest.all fun c => Text.isAsciiAlphanumeric c || c == '_'

/-- Dot-separated segments, each a capital followed by letters, digits and underscores. -/
def isViewName (name : String) : Bool :=
  (Text.pieces '.' name.toList).all isSegment

/-- What stands after the last dot of the last slash-separated part, if anything does. -/
def format? (template : String) : Option String :=
  let file := ((Text.pieces '/' template.toList).getLast?).getD []
  match Text.cutLast? '.' file with
  | some (_,c :: rest) => some (String.ofList (c :: rest))
  | _ => none

theorem format?_eq_some_iff_of_pieces {template format : String} {folders : List (List Char)}
    {file : List Char} (cut : Text.pieces '/' template.toList = folders ++ [file]) :
    format? template = some format ↔
      format ≠ "" ∧ '.' ∉ format.toList ∧ ∃ stem, file = stem ++ '.' :: format.toList := by
  simp only [format?,cut,List.getLast?_concat,Option.getD_some]
  constructor
  · intro named
    split at named
    next stem c rest found =>
      obtain rfl := Option.some.inj named
      obtain ⟨whole,undotted⟩ := Text.of_cutLast? found
      exact ⟨by simp,by simpa using undotted,stem,by simpa using whole⟩
    next => contradiction
  · rintro ⟨nonempty,undotted,stem,rfl⟩
    rw [Text.cutLast?_append undotted]
    rcases same : format.toList with _ | ⟨c,rest⟩
    · exact absurd (String.toList_eq_nil_iff.mp same) nonempty
    · simp [← same]

/-- A format is what a name ends in after a dot, with no dot and no slash in it. -/
theorem format?_eq_some_iff {template format : String} : format? template = some format ↔
    format ≠ "" ∧ '.' ∉ format.toList ∧ '/' ∉ format.toList ∧
      ∃ stem, template = stem ++ "." ++ format := by
  obtain ⟨folders,file,cut⟩ : ∃ folders file, Text.pieces '/' template.toList = folders ++ [file] :=
    ⟨_,_,(List.dropLast_concat_getLast (Text.pieces_ne_nil '/' template.toList)).symm⟩
  have slashlessFile : '/' ∉ file :=
    Text.not_mem_of_mem_pieces (s := template.toList) (by simp [cut])
  have ends (slashless : '/' ∉ format.toList) :
      (∃ stem, file = stem ++ '.' :: format.toList) ↔ ∃ stem, template = stem ++ "." ++ format := by
    have absent : '/' ∉ '.' :: format.toList := by simpa using slashless
    have whole := Text.joined_pieces '/' template.toList
    rw [cut] at whole
    rw [← Text.exists_joined_concat_iff absent folders,whole]
    constructor
    · rintro ⟨stem,same⟩
      exact ⟨String.ofList stem,String.toList_inj.mp (by simpa using same)⟩
    · rintro ⟨stem,rfl⟩
      exact ⟨stem.toList,by simp⟩
  rw [format?_eq_some_iff_of_pieces cut]
  refine and_congr_right fun _ => and_congr_right fun _ => ⟨fun ended => ?_,?_⟩
  · have slashless : '/' ∉ format.toList := by
      obtain ⟨stem,rfl⟩ := ended
      exact fun member => slashlessFile (by simp [member])
    exact ⟨slashless,(ends slashless).mp ended⟩
  · rintro ⟨slashless,ended⟩
    exact (ends slashless).mpr ended

def isMarkup (template : String) : Bool :=
  match format? template with
  | some format => format == "html" || format == "htm" || format == "xml"
  | none => false

/-- The case of the last cased character of the word being read. -/
inductive Letters
  | none
  | lower
  | upper
deriving DecidableEq

/-- Splits letters and digits where a small letter is followed by a capital, and before the last
of several capitals that a small letter follows. `word` holds the word being read, last first. -/
def wordsFrom (letters : Letters) (word : List Char) : List Char → List (List Char)
  | [] => []
  | [c] => [(c :: word).reverse]
  | c :: next :: rest =>
    let after := if Text.isLower c then .lower else if Text.isUpper c then .upper else letters
    if after = .lower ∧ Text.isUpper next then
      (c :: word).reverse :: wordsFrom .none [] (next :: rest)
    else if letters = .upper ∧ Text.isUpper c ∧ Text.isLower next then
      word.reverse :: wordsFrom .none [c] (next :: rest)
    else wordsFrom after (c :: word) (next :: rest)

def runs (s : List Char) : List (List Char) :=
  (Text.pieces ' ' (s.map fun c => if Text.isAlphanumeric c then c else ' ')).filter (!·.isEmpty)

def words (s : List Char) : List (List Char) := (runs s).flatMap (wordsFrom .none [])

/-- A word in lower case; a sigma that ends it takes its final form. -/
def lowerWord : List Char → List Char
  | [] => []
  | [c] => if c.toNat = 0x3A3 then [Char.ofNat 0x3C2] else Text.lowerOf c
  | c :: rest => Text.lowerOf c ++ lowerWord rest

/-- The words of a text in lower case, with underscores between them. -/
def snakeCase (s : List Char) : List Char := Text.joined ['_'] ((words s).map lowerWord)

def suffix : String := "View"

def unsuffixed (suffix segment : List Char) : List Char :=
  (Text.dropEnding? suffix segment).getD segment

/-- The segments of a view name without the namespace they start with. An empty namespace, or one
that is not a prefix segment by segment, removes none. -/
def withoutNamespace (namespaceText view : List Char) : List (List Char) :=
  let segments := Text.pieces '.' view
  let space := (Text.pieces '.' namespaceText).filter (!·.isEmpty)
  if space.isPrefixOf segments then segments.drop space.length else segments

def unsuffixLast (suffix : List Char) : List (List Char) → List (List Char)
  | [] => []
  | [segment] => [unsuffixed suffix segment]
  | segment :: rest => segment :: unsuffixLast suffix rest

/-- The directory of a view's templates below the root: one word per segment that is left. -/
def directory (view namespaceText suffix : String) : String :=
  let segments := unsuffixLast suffix.toList (withoutNamespace namespaceText.toList view.toList)
  String.ofList (Text.joined ['/'] ((segments.filter (!·.isEmpty)).map snakeCase))

/-- The key under which a single resource of a view is bound. A name that is the bare suffix
keeps it. -/
def resource (view suffix : String) : String :=
  let last := ((Text.pieces '.' view.toList).getLast?).getD []
  let base := unsuffixed suffix.toList last
  String.ofList (snakeCase (if base.isEmpty then last else base))

end ViewTemplates.Naming
