import ViewTemplates.Proofs.FilledText

/-! Text with names to be printed, as a Jinja template. Its tokens are those of its parts one after
the other, and what is read from them are texts and names in turn. -/
namespace ViewTemplates

theorem Text.dropEnding?_of_getLast? {c : Char} {s : List Char} (differs : s.getLast? ≠ some c) :
    dropEnding? [c] s = none := by
  have absent : ¬[c] <:+ s := by
    rintro ⟨front,rfl⟩
    simp at differs
  simp [dropEnding?,absent]

/-- Text with names to be filled in: each text with the name after it, and the text after them
all. -/
structure Form where
  parts : List (List Char × String)
  last : List Char

namespace Form

/-- The text of a form, where `write` says what stands for a name. -/
def filled (write : String → List Char) (form : Form) : List Char :=
  form.parts.flatMap (fun part => part.1 ++ write part.2) ++ form.last

theorem filled_nil (write : String → List Char) (last : List Char) :
    filled write ⟨[],last⟩ = last := rfl

theorem filled_cons (write : String → List Char) (text : List Char) (name : String)
    (rest : List (List Char × String)) (last : List Char) :
    filled write ⟨(text,name) :: rest,last⟩ = text ++ write name ++ filled write ⟨rest,last⟩ := by
  simp [filled]

end Form

namespace Jinja

/-- A name that is read as a variable: a word that is no constant and no negation. -/
structure IsVariable (name : String) : Prop where
  word : ∃ first rest, name.toList = first :: rest ∧ isWordStart first = true ∧
    ∀ c ∈ rest, isWordChar c = true
  free : name ∉ ["true","True","false","False","none","None","not"]

def printing (name : String) : List Char := '{' :: '{' :: ' ' :: name.toList ++ [' ','}','}']

variable {c d : Char} {name : String} {s text rest : List Char}

/-! ### Tokens -/

theorem untilMark_cons (plain : c ≠ '{') (rest : List Char) :
    untilMark (c :: rest) = (c :: (untilMark rest).1,(untilMark rest).2) := by
  rw [untilMark] <;> simp [plain]

theorem untilMark_append (plain : '{' ∉ text) (rest : List Char) :
    untilMark (text ++ rest) = (text ++ (untilMark rest).1,(untilMark rest).2) := by
  induction text with
  | nil => rfl
  | cons c text ih =>
    obtain ⟨here,later⟩ := List.ne_and_not_mem_of_not_mem_cons plain
    rw [List.cons_append,untilMark_cons here.symm,ih later]
    rfl

theorem untilMark_of_not_mem (plain : '{' ∉ text) : untilMark text = (text,none) := by
  have whole := untilMark_append plain []
  rwa [List.append_nil,untilMark,List.append_nil] at whole

theorem ne_of_isWordStart (starts : isWordStart c = true) (other : isWordStart d = false) :
    c ≠ d := by
  rintro rfl
  exact Bool.false_ne_true (other.symm.trans starts)

theorem singleSymbol?_of_isWordStart (starts : isWordStart c = true) : singleSymbol? c = none := by
  have differs {d : Char} (other : isWordStart d = false) : c ≠ d := ne_of_isWordStart starts other
  simp (disch := decide) only [singleSymbol?,differs,if_false]

theorem symbol?_of_isWordStart (starts : isWordStart c = true) (rest : List Char) :
    symbol? (c :: rest) = none := by
  have differs {d : Char} (other : isWordStart d = false) : c ≠ d := ne_of_isWordStart starts other
  rw [symbol?,singleSymbol?_of_isWordStart starts,Option.map_none]
  all_goals simp (disch := decide) [differs]

theorem codeEnd?_of_isWordStart (starts : isWordStart c = true) (statement : Bool)
    (rest : List Char) : codeEnd? statement (c :: rest) = none := by
  have differs {d : Char} (other : isWordStart d = false) : c ≠ d := ne_of_isWordStart starts other
  rw [codeEnd?]
  all_goals simp (disch := decide) [differs]

theorem dropBlanks_of_isWordStart (starts : isWordStart c = true) (rest : List Char) :
    dropBlanks (c :: rest) = c :: rest := by
  have differs {d : Char} (other : isWordStart d = false) : c ≠ d := ne_of_isWordStart starts other
  have visible : isAsciiBlank c = false := by simp (disch := decide) [isAsciiBlank,differs]
  rw [dropBlanks,List.dropWhile_cons_of_neg (by simp [visible])]

theorem not_isAsciiDigit_of_isWordStart (starts : isWordStart c = true) :
    Text.isAsciiDigit c = false := by
  by_contra digit
  simp only [isWordStart,Text.isAsciiUpper,Text.isAsciiLower,Text.isAsciiDigit,Bool.or_eq_true,
    Bool.and_eq_true,decide_eq_true_eq,beq_iff_eq,Bool.not_eq_false] at starts digit
  obtain ⟨-,small⟩ := digit
  rcases starts with (⟨capital,-⟩ | ⟨letter,-⟩) | rfl
  · exact absurd (Char.le_trans capital small) (by decide)
  · exact absurd (Char.le_trans letter small) (by decide)
  · exact absurd small (by decide)

theorem isWordChar_of_isWordStart (starts : isWordStart c = true) : isWordChar c = true := by
  simp only [isWordStart,isWordChar,Text.isAsciiAlphanumeric,Bool.or_eq_true] at starts ⊢
  rcases starts with (upper | lower) | underscore
  · exact .inl (.inl (.inl upper))
  · exact .inl (.inl (.inr lower))
  · exact .inr underscore

theorem IsVariable.isWordChar (named : IsVariable name) :
    ∀ c ∈ name.toList, isWordChar c = true := by
  obtain ⟨first,rest,whole,starts,follow⟩ := named.word
  rw [whole]
  exact List.forall_mem_cons.mpr ⟨isWordChar_of_isWordStart starts,follow⟩

theorem codeToken?_name (named : IsVariable name) (rest : List Char) :
    codeToken? (name.toList ++ ' ' :: rest) = some (.word name,' ' :: rest) := by
  have chars := named.isWordChar
  have taken : (name.toList ++ ' ' :: rest).takeWhile isWordChar = name.toList := by
    rw [List.takeWhile_append_of_pos chars,List.takeWhile_cons_of_neg (by decide),List.append_nil]
  have dropped : (name.toList ++ ' ' :: rest).dropWhile isWordChar = ' ' :: rest := by
    rw [List.dropWhile_append_of_pos chars,List.dropWhile_cons_of_neg (by decide)]
  obtain ⟨first,others,whole,starts,-⟩ := named.word
  have quote : ¬(first = '"' ∨ first = '\'') := not_or.mpr
    ⟨ne_of_isWordStart starts (by decide),ne_of_isWordStart starts (by decide)⟩
  rw [whole,List.cons_append] at taken dropped ⊢
  simp only [codeToken?,quote,if_false,not_isAsciiDigit_of_isWordStart starts,Bool.false_eq_true,
    symbol?_of_isWordStart starts,starts,if_true,taken,dropped,← whole,String.ofList_toList]

theorem code?_name (named : IsVariable name) (fuel : Nat) (rest : List Char) :
    code? (fuel + 2) false 0 (' ' :: name.toList ++ ' ' :: '}' :: '}' :: rest) =
      some ([.word name,.expressionEnd],false,rest) := by
  have token := codeToken?_name named ('}' :: '}' :: rest)
  obtain ⟨first,others,whole,starts,-⟩ := named.word
  have begun : dropBlanks (' ' :: name.toList ++ ' ' :: '}' :: '}' :: rest) =
      name.toList ++ ' ' :: '}' :: '}' :: rest := by
    rw [whole]
    exact dropBlanks_of_isWordStart starts _
  have ended : code? (fuel + 1) false 0 (' ' :: '}' :: '}' :: rest) =
      some ([.expressionEnd],false,rest) := rfl
  rw [code?,begun]
  rw [whole,List.cons_append] at token ⊢
  simp only [codeEnd?_of_isWordStart starts,token]
  simp [ended,Token.opening]

theorem template?_of_not_mem (plain : '{' ∉ text) (fuel : Nat) :
    template? (fuel + 1) false text = some (textTokens text) := by
  simp [template?,untilMark_of_not_mem plain]

theorem template?_printing (plain : '{' ∉ text) (named : IsVariable name) {fuel : Nat}
    {rest : List Char} {following : List Token}
    (later : template? fuel false rest = some following) :
    template? (fuel + 1) false (text ++ printing name ++ rest) =
      some (textTokens text ++ [.expressionStart,.word name,.expressionEnd] ++ following) := by
  have whole : text ++ printing name ++ rest =
      text ++ '{' :: '{' :: (' ' :: name.toList ++ ' ' :: '}' :: '}' :: rest) := by
    simp [printing]
  have mark : untilMark (text ++ printing name ++ rest) =
      (text,some (.expression,' ' :: name.toList ++ ' ' :: '}' :: '}' :: rest)) := by
    rw [whole,untilMark_append plain]
    simp [untilMark]
  obtain ⟨spare,enough⟩ : ∃ spare, (' ' :: name.toList ++ ' ' :: '}' :: '}' :: rest).length + 1 =
      spare + 2 := ⟨_,rfl⟩
  have code := code?_name named spare rest
  rw [← enough] at code
  have unsigned : blanksSign (' ' :: name.toList ++ ' ' :: '}' :: '}' :: rest) =
      (.unspecified,' ' :: name.toList ++ ' ' :: '}' :: '}' :: rest) := rfl
  simp only [template?,Bool.false_eq_true,if_false,mark,unsigned,code]
  simp [later]

end Jinja

namespace Form

/-- Texts without braces, and names that are expressions. -/
structure Proper (form : Form) : Prop where
  plain : ∀ part ∈ form.parts, '{' ∉ part.1 ∧ '}' ∉ part.1
  named : ∀ part ∈ form.parts, Jinja.IsVariable part.2
  plainLast : '{' ∉ form.last ∧ '}' ∉ form.last

def tokens (form : Form) : List Jinja.Token :=
  form.parts.flatMap (fun part => Jinja.textTokens part.1 ++
    [.expressionStart,.word part.2,.expressionEnd]) ++ Jinja.textTokens form.last

theorem Proper.tail {part : List Char × String} {rest : List (List Char × String)}
    {last : List Char} (proper : Proper ⟨part :: rest,last⟩) : Proper ⟨rest,last⟩ :=
  ⟨(List.forall_mem_cons.mp proper.plain).2,(List.forall_mem_cons.mp proper.named).2,
    proper.plainLast⟩

theorem template?_filled {form : Form} (proper : form.Proper) {fuel : Nat}
    (enough : form.parts.length < fuel) :
    Jinja.template? fuel false (form.filled Jinja.printing) = some form.tokens := by
  obtain ⟨parts,last⟩ := form
  induction parts generalizing fuel with
  | nil =>
    obtain ⟨spare,rfl⟩ := Nat.exists_eq_add_of_lt enough
    exact Jinja.template?_of_not_mem proper.plainLast.1 _
  | cons part rest ih =>
    obtain ⟨text,name⟩ := part
    simp only [List.length_cons] at enough
    obtain ⟨fuel,rfl⟩ : ∃ spare, fuel = spare + 1 := ⟨fuel - 1,by omega⟩
    have plain := (proper.plain _ List.mem_cons_self).1
    have named := proper.named _ List.mem_cons_self
    have later : Jinja.template? fuel false (filled Jinja.printing ⟨rest,last⟩) =
        some (tokens ⟨rest,last⟩) := ih proper.tail (by simpa using enough)
    rw [filled_cons,Jinja.template?_printing plain named later]
    simp [tokens]

/-- A line end at the very end of a form is one of its last text. -/
theorem getLast?_filled (form : Form) {c : Char}
    (ends : (form.filled Jinja.printing).getLast? = some c) :
    c = '}' ∨ form.last.getLast? = some c := by
  obtain ⟨parts,last⟩ := form
  induction parts with
  | nil => exact .inr ends
  | cons part rest ih =>
    obtain ⟨text,name⟩ := part
    rw [filled_cons,List.getLast?_append,Option.or_eq_some_iff] at ends
    rcases ends with later | ⟨-,here⟩
    · exact ih later
    · have mark : (text ++ Jinja.printing name).getLast? = some '}' := by
        simp [Jinja.printing,List.getLast?_append,List.getLast?_cons]
      exact .inl (Option.some.inj (here.symm.trans mark))

theorem length_parts_le (form : Form) :
    form.parts.length ≤ (form.filled Jinja.printing).length := by
  obtain ⟨parts,last⟩ := form
  induction parts with
  | nil => exact Nat.zero_le _
  | cons part rest ih =>
    obtain ⟨text,name⟩ := part
    simp only [filled_cons,Jinja.printing,List.length_append,List.length_cons] at ih ⊢
    omega

/-- Whether a line end stands at the end, where the Jinja engine does not count it. -/
def EndsInLine (form : Form) : Prop :=
  form.last.getLast? = some '\n' ∨ form.last.getLast? = some '\r'

theorem tokens?_filled {form : Form} (proper : form.Proper) (inLine : ¬form.EndsInLine)
    {source : String} (whole : source.toList = form.filled Jinja.printing) :
    Jinja.tokens? source = some form.tokens := by
  have kept {c : Char} (lineEnd : c = '\n' ∨ c = '\r') :
      Text.dropEnding? [c] (form.filled Jinja.printing) = none := by
    refine Text.dropEnding?_of_getLast? fun ends => ?_
    rcases getLast?_filled form ends with rfl | last
    · revert lineEnd
      decide
    · rcases lineEnd with rfl | rfl
      · exact inLine (.inl last)
      · exact inLine (.inr last)
  have enough := Nat.lt_succ_of_le form.length_parts_le
  simp only [Jinja.tokens?,whole,kept (.inl rfl),kept (.inr rfl),Option.getD_none]
  exact template?_filled proper enough

end Form

namespace Jinja.Parse

variable {fuel depth n : Nat} {ts rest : List Token} {e : Expr} {name : String}

theorem infixOp?_expressionEnd (n : Nat) : infixOp? n .expressionEnd = none := by
  unfold infixOp?
  split <;> simp_all

/-- An operand that the end of the expression follows is the same on the level before. -/
theorem level_of_next (infixLevel : n ≠ 2 ∧ n ≠ 3 ∧ n ≠ 8)
    (operand : level (fuel + 1) depth (n + 1) ts = some (e,.expressionEnd :: rest)) :
    level (fuel + 2) depth n ts = some (e,.expressionEnd :: rest) := by
  obtain ⟨notNegation,notComparison,notOperand⟩ := infixLevel
  have unchained : chain (fuel + 1) depth n e (.expressionEnd :: rest) =
      some (e,.expressionEnd :: rest) := by
    simp [chain,infixOp?_expressionEnd]
  rw [level]
  simp [notNegation,notComparison,notOperand,operand,unchained]

theorem level_operand (fuel depth : Nat) (name : String) (rest : List Token) :
    level (fuel + 4) (depth + 1) 8 (.word name :: .expressionEnd :: rest) =
      some (wordExpr name,.expressionEnd :: rest) := by
  simp [level,signed,signs,symbol,isSymbol,primary,lookups,filters]

/-- A word that the end of the expression follows is the whole expression. It is passed through all
levels of precedence, from operands up. -/
theorem expr_word (free : name ≠ "not") (fuel depth : Nat) (rest : List Token) :
    expr (fuel + 13) (depth + 2) (.word name :: .expressionEnd :: rest) =
      some (wordExpr name,.expressionEnd :: rest) := by
  have power := level_of_next (n := 7) (by decide) (level_operand fuel depth name rest)
  have product := level_of_next (n := 6) (by decide) power
  have concatenation := level_of_next (n := 5) (by decide) product
  have sum := level_of_next (n := 4) (by decide) concatenation
  have comparison : level (fuel + 9) (depth + 1) 3 (.word name :: .expressionEnd :: rest) =
      some (wordExpr name,.expressionEnd :: rest) := by
    rw [level]
    simp [sum,comparisons,anyComparison?,comparison?,isWord]
  have negation : level (fuel + 10) (depth + 1) 2 (.word name :: .expressionEnd :: rest) =
      some (wordExpr name,.expressionEnd :: rest) := by
    have unnegated : word "not" (.word name :: .expressionEnd :: rest) = none := by
      simp [word,isWord,free]
    rw [level]
    simp only [unnegated,comparison,if_true]
  have conjunction := level_of_next (n := 1) (by decide) negation
  have disjunction := level_of_next (n := 0) (by decide) conjunction
  have unconditional : choices (fuel + 12) (depth + 1) (wordExpr name) (.expressionEnd :: rest) =
      some (wordExpr name,.expressionEnd :: rest) := by
    rw [choices]
    rfl
  rw [expr,disjunction]
  exact unconditional

def textStmts (text : List Char) : List Stmt :=
  if text.isEmpty then [] else [.text (String.ofList text)]

/-- The tokens are those of the statements, to their end. A word nests reading deepest: its fourteen
calls are what the fuel has to suffice for at every token. -/
def Reads (depth : Nat) (ts : List Token) (found : List Stmt) : Prop :=
  ∀ fuel, 14 * ts.length < fuel → stmts fuel depth false [] ts = some (found,[])

variable {found : List Stmt}

theorem Reads.nil (depth : Nat) : Reads depth [] [] := by
  intro fuel enough
  obtain ⟨fuel,rfl⟩ := Nat.exists_eq_add_of_lt enough
  rw [stmts]

theorem Reads.text (later : Reads depth rest found) (text : List Char) :
    Reads depth (textTokens text ++ rest) (textStmts text ++ found) := by
  unfold textTokens textStmts
  split
  next => exact later
  next =>
    intro fuel enough
    simp only [List.singleton_append,List.length_cons] at enough
    obtain ⟨fuel,rfl⟩ : ∃ spare, fuel = spare + 1 := ⟨fuel - 1,by omega⟩
    have following := later fuel (by omega)
    simp [stmts,following]

theorem Reads.printing (later : Reads (depth + 2) rest found) (named : IsVariable name) :
    Reads (depth + 2) (.expressionStart :: .word name :: .expressionEnd :: rest)
      (.emit (.variable name) :: found) := by
  intro fuel enough
  simp only [List.length_cons] at enough
  obtain ⟨fuel,rfl⟩ : ∃ spare, fuel = spare + 13 + 1 := ⟨fuel - 14,by omega⟩
  have following := later (fuel + 13) (by omega)
  have free := named.free
  simp only [List.mem_cons,List.not_mem_nil,or_false,not_or] at free
  have value : wordExpr name = .variable name := by simp [wordExpr,free]
  have printed := expr_word free.2.2.2.2.2.2 fuel depth rest
  simp [stmts,printed,value,expressionEnd,following]

end Jinja.Parse

namespace Form

def stmts (form : Form) : List Jinja.Stmt :=
  form.parts.flatMap (fun part =>
    Jinja.Parse.textStmts part.1 ++ [.emit (.variable part.2)]) ++
    Jinja.Parse.textStmts form.last

theorem mem_stmts {form : Form} {s : Jinja.Stmt} (member : s ∈ form.stmts) :
    (∃ text, s = .text text) ∨ ∃ part ∈ form.parts, s = .emit (.variable part.2) := by
  have inText {text : List Char} (inside : s ∈ Jinja.Parse.textStmts text) :
      ∃ text, s = .text text := by
    unfold Jinja.Parse.textStmts at inside
    split at inside
    next => contradiction
    next => exact ⟨_,List.mem_singleton.mp inside⟩
  rcases List.mem_append.mp member with early | late
  · obtain ⟨part,inParts,here⟩ := List.mem_flatMap.mp early
    rcases List.mem_append.mp here with before | name
    · exact .inl (inText before)
    · exact .inr ⟨part,inParts,List.mem_singleton.mp name⟩
  · exact .inl (inText late)

theorem reads_tokens {form : Form} (proper : form.Proper) (depth : Nat) :
    Jinja.Parse.Reads (depth + 2) form.tokens form.stmts := by
  obtain ⟨parts,last⟩ := form
  induction parts with
  | nil =>
    have ended := (Jinja.Parse.Reads.nil (depth + 2)).text last
    rwa [List.append_nil,List.append_nil] at ended
  | cons part rest ih =>
    have named := proper.named _ List.mem_cons_self
    have read := ((ih proper.tail).printing named).text part.1
    simpa [tokens,stmts] using read

theorem allBlocks_stmts (form : Form) : Jinja.allBlocks form.stmts = [] := by
  have each : ∀ s ∈ form.stmts, Jinja.blocksOf s = [] := by
    intro s member
    rcases mem_stmts member with ⟨text,rfl⟩ | ⟨part,-,rfl⟩ <;> rfl
  generalize form.stmts = body at each
  induction body with
  | nil => rfl
  | cons s rest ih =>
    obtain ⟨here,later⟩ := List.forall_mem_cons.mp each
    rw [Jinja.allBlocks,here,ih later,List.append_nil]

theorem parse?_filled {form : Form} (proper : form.Proper) (inLine : ¬form.EndsInLine)
    {source : String} (whole : source.toList = form.filled Jinja.printing) :
    Jinja.parse? source = some form.stmts := by
  -- The limit of nesting is 150, and a name takes two levels of it.
  have read := reads_tokens proper 148 (32 * (form.tokens.length + 4)) (by omega)
  simp [Jinja.parse?,tokens?_filled proper inLine whole,Jinja.Parse.depthLimit,read,
    allBlocks_stmts]

end Form

end ViewTemplates
