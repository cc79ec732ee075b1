import Mathlib.Data.List.SplitBy
import ListQuery.Sql.Select

/-!
Statements read back from their text. A scan tells names between quotes, in which two quotes stand
for one, from the characters outside, and these are cut into words and marks. Main statement:
well-spaced tokens are read back one by one, whatever characters their names hold.
-/
namespace ListQuery.Sql

/-- A name between quotes, or a character outside of them. -/
inductive Piece where
  | name (text : String)
  | char (c : Char)
  deriving DecidableEq

/-- Where a scan stands. -/
inductive Place where
  | outside
  | inside (read : List Char)
  /-- Behind a quote that ends the name, unless another quote follows. -/
  | behind (read : List Char)

/-- The pieces of a text; none if its last name does not end. -/
def scanFrom (quote : Char) : Place → List Char → Option (List Piece)
  | .outside, [] => some []
  | .inside _, [] => none
  | .behind read, [] => some [.name (.ofList read)]
  | .outside, c :: cs =>
    if c = quote then scanFrom quote (.inside []) cs
    else (scanFrom quote .outside cs).map (.char c :: ·)
  | .inside read, c :: cs =>
    if c = quote then scanFrom quote (.behind read) cs
    else scanFrom quote (.inside (read ++ [c])) cs
  | .behind read, c :: cs =>
    if c = quote then scanFrom quote (.inside (read ++ [quote])) cs
    else (scanFrom quote .outside cs).map fun ps => .name (.ofList read) :: .char c :: ps

/-- What a database reads at once: a name between quotes, a word, or a mark that stands for
itself. Operators and placeholders are words. -/
inductive Lexeme where
  | name (text : String)
  | word (text : String)
  | mark (c : Char)
  deriving DecidableEq

namespace Lexeme

def name? : Lexeme → Option String
  | .name s => some s
  | .word _ => none
  | .mark _ => none

end Lexeme

def isMark (c : Char) : Bool := ['(', ')', ',', '.'].contains c

/-- Whether a character belongs to a word. -/
def isWordChar (c : Char) : Bool := c != ' ' && !isMark c

namespace Piece

def char? : Piece → Option Char
  | .char c => some c
  | .name _ => none

def inWord : Piece → Bool
  | .char c => isWordChar c
  | .name _ => false

@[simp] theorem inWord_char (c : Char) : (Piece.char c).inWord = isWordChar c := rfl

/-- Whether two neighbours belong to one word. -/
def joins (p q : Piece) : Bool := p.inWord && q.inWord

/-- The lexeme of a run of neighbours; a blank makes none. -/
def lexeme? : List Piece → Option Lexeme
  | [] => none
  | .name s :: _ => some (.name s)
  | .char c :: ps =>
    if c = ' ' then none
    else if isMark c then some (.mark c)
    else some (.word (.ofList (c :: ps.filterMap char?)))

def lexemes (ps : List Piece) : List Lexeme := (ps.splitBy joins).filterMap lexeme?

end Piece

/-- The lexemes of a text without quotes. -/
def wordLexemes (text : String) : List Lexeme := Piece.lexemes (text.toList.map .char)

/-- The lexemes of a text. -/
def Dialect.lexemes? (d : Dialect) (text : String) : Option (List Lexeme) :=
  (scanFrom d.quote .outside text.toList).map Piece.lexemes

/-- The text of names with their quotes doubled is read back, whatever the names. -/
theorem scanFrom_inside (quote : Char) (read name rest : List Char) :
    scanFrom quote (.inside read)
        (name.flatMap (fun c => if c = quote then [c, c] else [c]) ++ quote :: rest) =
      scanFrom quote (.behind (read ++ name)) rest := by
  induction name generalizing read with
  | nil => simp [scanFrom]
  | cons c name ih =>
    by_cases hc : c = quote
    · have h := ih (read ++ [quote])
      simpa [hc, scanFrom] using h
    · have h := ih (read ++ [c])
      simpa [hc, scanFrom] using h

/-- A name has ended where no other quote follows. -/
theorem scanFrom_behind {quote : Char} {rest : List Char} (h : rest.head? ≠ some quote)
    (read : List Char) :
    scanFrom quote (.behind read) rest =
      (scanFrom quote .outside rest).map (.name (.ofList read) :: ·) := by
  cases rest with
  | nil => rfl
  | cons c rest =>
    have hc : c ≠ quote := by simpa using h
    simp [scanFrom, hc, Function.comp_def]

theorem scanFrom_outside {quote : Char} {cs : List Char} (h : ∀ c ∈ cs, c ≠ quote)
    (rest : List Char) :
    scanFrom quote .outside (cs ++ rest) =
      (scanFrom quote .outside rest).map (cs.map Piece.char ++ ·) := by
  induction cs with
  | nil => simp
  | cons c cs ih =>
    have hc : c ≠ quote := h c List.mem_cons_self
    have ih := ih fun x hx => h x (List.mem_cons_of_mem _ hx)
    simp [scanFrom, hc, ih, Function.comp_def]

namespace Token

/-- How many placeholders a token takes. -/
def arity : Token → Nat
  | .value _ => 1
  | .word _ => 0
  | .name _ => 0

/-- The characters of a token before which `n` placeholders stand. -/
def chars (d : Dialect) (n : Nat) : Token → List Char
  | .word w => w.toList
  | .name s => d.quoteName s
  | .value _ => d.placeholder (n + 1)

/-- The pieces that the characters of a token are read as. -/
def pieces (d : Dialect) (n : Nat) : Token → List Piece
  | .word w => w.toList.map .char
  | .name s => [.name s]
  | .value _ => (d.placeholder (n + 1)).map .char

def isName : Token → Bool
  | .name _ => true
  | .word _ => false
  | .value _ => false

/-- Words have a character and no quote. -/
def isPlain : Token → Bool
  | .word w => !w.toList.isEmpty && w.toList.all fun c => c != '"' && c != '\x60'
  | .name _ => true
  | .value _ => true

def startsInWord : Token → Bool
  | .word w => w.toList.head?.any isWordChar
  | .name _ => false
  | .value _ => true

def endsInWord : Token → Bool
  | .word w => w.toList.getLast?.any isWordChar
  | .name _ => false
  | .value _ => true

/-- Whether two neighbours are told apart: two names need something between their quotes, and two
words a blank or a mark. -/
def apart (a b : Token) : Bool :=
  !(a.isName && b.isName) && !(a.endsInWord && b.startsInWord)

/-- Whether a token is told apart from every neighbour. -/
def isClosed (t : Token) : Bool :=
  t.isPlain && !t.isName && !t.startsInWord && !t.endsInWord

end Token

/-- Tokens that can be told apart in the text. -/
structure WellSpaced (ts : List Token) : Prop where
  plain : ∀ t ∈ ts, t.isPlain = true
  apart : ts.IsChain fun a b => a.apart b = true

theorem joinTokens_cons_cons (separator : String) (ts us : List Token) (tss : List (List Token)) :
    joinTokens separator (ts :: us :: tss) =
      ts ++ .word separator :: joinTokens separator (us :: tss) := rfl

/-- The values of a list, with a comma between each two. -/
theorem joinTokens_values (first : Datum) (others : List Datum) :
    joinTokens ", " ([.value first] :: others.map fun v => [.value v]) =
      .value first :: others.flatMap fun v => [.word ", ", .value v] := by
  induction others generalizing first with
  | nil => rfl
  | cons v others ih =>
    rw [List.map_cons, joinTokens_cons_cons, ih v]
    rfl

namespace WellSpaced

variable {t : Token} {ts us : List Token}

theorem nil : WellSpaced [] := ⟨by simp, .nil⟩

theorem tail (h : WellSpaced (t :: ts)) : WellSpaced ts :=
  ⟨fun x hx => h.plain x (List.mem_cons_of_mem _ hx), h.apart.tail⟩

/-- Where the second tokens begin with a closed one, nothing else has to be kept apart. -/
theorem append (hts : WellSpaced ts) (hus : WellSpaced us)
    (h : ∀ t ∈ us.head?, t.isClosed = true) : WellSpaced (ts ++ us) := by
  constructor
  · intro t ht
    rcases List.mem_append.1 ht with ht | ht
    · exact hts.plain t ht
    · exact hus.plain t ht
  · refine List.isChain_append.2 ⟨hts.apart, hus.apart, fun a _ b hb => ?_⟩
    have hb := h b hb
    simp_all [Token.isClosed, Token.apart]

theorem cons (ht : t.isClosed = true) (hts : WellSpaced ts) : WellSpaced (t :: ts) := by
  constructor
  · intro x hx
    rcases List.mem_cons.1 hx with hx | hx
    · subst hx
      simp_all [Token.isClosed]
    · exact hts.plain x hx
  · refine List.isChain_cons.2 ⟨fun b _ => ?_, hts.apart⟩
    simp_all [Token.isClosed, Token.apart]

/-- Runs of tokens with a closed separator between each two. -/
theorem join {separator : String} (hs : (Token.word separator).isClosed = true)
    {tss : List (List Token)} (h : ∀ ts ∈ tss, WellSpaced ts) :
    WellSpaced (joinTokens separator tss) := by
  induction tss with
  | nil => exact nil
  | cons ts tss ih =>
    have hts := h ts List.mem_cons_self
    have ih := ih fun us hus => h us (List.mem_cons_of_mem _ hus)
    cases tss with
    | nil => exact hts
    | cons us tss =>
      rw [joinTokens_cons_cons]
      exact hts.append (.cons hs ih) (by simpa using hs)

end WellSpaced

/-- The pieces of tokens before which `n` placeholders stand. -/
def piecesAfter (d : Dialect) (n : Nat) : List Token → List Piece
  | [] => []
  | t :: ts => t.pieces d n ++ piecesAfter d (n + t.arity) ts

/-- The lexemes of tokens before which `n` placeholders stand. -/
def lexemesAfter (d : Dialect) (n : Nat) : List Token → List Lexeme
  | [] => []
  | t :: ts => Piece.lexemes (t.pieces d n) ++ lexemesAfter d (n + t.arity) ts

theorem renderAfter_cons (d : Dialect) (n : Nat) (t : Token) (ts : List Token) :
    renderAfter d n (t :: ts) = t.chars d n ++ renderAfter d (n + t.arity) ts := by
  cases t <;> rfl

namespace Dialect

variable (d : Dialect) (n : Nat)

theorem quote_eq : d.quote = '"' ∨ d.quote = '\x60' := by cases d <;> simp [quote]

/-- A placeholder is a word, and no quote stands in it. -/
theorem placeholder_chars :
    d.placeholder n ≠ [] ∧
      ∀ c ∈ d.placeholder n, isWordChar c = true ∧ c ≠ '"' ∧ c ≠ '\x60' := by
  cases d with
  | sqlite => simp [placeholder, isWordChar, isMark]
  | mysql => simp [placeholder, isWordChar, isMark]
  | postgres =>
    refine ⟨by simp [placeholder], fun c hc => ?_⟩
    rcases List.mem_cons.1 hc with hc | hc
    · subst hc
      decide
    · have hd := Nat.isDigit_of_mem_toDigits (by decide) (by decide) hc
      have hne : ∀ x : Char, x.isDigit = false → c ≠ x := by
        rintro x hx rfl
        rw [hd] at hx
        cases hx
      have hm : isMark c = false := by
        simp only [isMark, List.contains_eq_mem, decide_eq_false_iff_not]
        intro hm
        have hmarks : ∀ m ∈ ['(', ')', ',', '.'], m.isDigit = false := by simp
        exact hne c (hmarks c hm) rfl
      exact ⟨by simp [isWordChar, hm, hne ' ' rfl], hne _ rfl, hne _ rfl⟩

end Dialect

namespace Token

variable {d : Dialect} {n : Nat} {t : Token}

theorem ne_quote_of_isPlain {w : String} (h : (Token.word w).isPlain = true) :
    ∀ c ∈ w.toList, c ≠ d.quote := by
  intro c hc
  have hc : c ≠ '"' ∧ c ≠ '\x60' := by
    have h := (Bool.and_eq_true_iff.1 h).2
    simpa using List.all_eq_true.1 h c hc
  rcases d.quote_eq with hq | hq
  · exact hq ▸ hc.1
  · exact hq ▸ hc.2

theorem placeholder_ne_quote : ∀ c ∈ d.placeholder n, c ≠ d.quote := by
  intro c hc
  have hc := ((d.placeholder_chars n).2 c hc).2
  rcases d.quote_eq with hq | hq
  · exact hq ▸ hc.1
  · exact hq ▸ hc.2

theorem pieces_ne_nil (h : t.isPlain = true) : t.pieces d n ≠ [] := by
  cases t with
  | word w => simpa [pieces] using (Bool.and_eq_true_iff.1 h).1
  | name s => simp [pieces]
  | value v => simpa [pieces] using (d.placeholder_chars (n + 1)).1

/-- What is no name does not begin with a quote. -/
theorem head?_chars_ne_quote (h : t.isPlain = true) (hn : t.isName = false) (rest : List Char) :
    (t.chars d n ++ rest).head? ≠ some d.quote := by
  have key : ∀ cs : List Char, cs ≠ [] → (∀ c ∈ cs, c ≠ d.quote) →
      (cs ++ rest).head? ≠ some d.quote := by
    intro cs hne hcs
    cases cs with
    | nil => exact absurd rfl hne
    | cons c cs => simpa using hcs c List.mem_cons_self
  cases t with
  | name s => cases hn
  | word w =>
    exact key _ (by simpa [chars] using (Bool.and_eq_true_iff.1 h).1) (ne_quote_of_isPlain h)
  | value v => exact key _ (d.placeholder_chars (n + 1)).1 placeholder_ne_quote

/-- The characters of a token are scanned as its pieces; a name needs something other than a name
behind it. -/
theorem scanFrom_chars (h : t.isPlain = true) {rest : List Char}
    (hr : t.isName = true → rest.head? ≠ some d.quote) :
    scanFrom d.quote .outside (t.chars d n ++ rest) =
      (scanFrom d.quote .outside rest).map (t.pieces d n ++ ·) := by
  cases t with
  | word w => exact scanFrom_outside (ne_quote_of_isPlain h) rest
  | value v => exact scanFrom_outside placeholder_ne_quote rest
  | name s =>
    have hb := scanFrom_behind (hr rfl) s.toList
    have hi := scanFrom_inside d.quote [] s.toList rest
    rw [List.nil_append, hb, String.ofList_toList] at hi
    simpa [chars, pieces, Dialect.quoteName, scanFrom] using hi

theorem startsInWord_of_mem_head? {p : Piece} (hp : p ∈ (t.pieces d n).head?)
    (hw : p.inWord = true) : t.startsInWord = true := by
  cases t with
  | name s =>
    simp only [pieces, List.head?_cons, Option.mem_some_iff] at hp
    subst hp
    cases hw
  | word w =>
    simp only [pieces, List.head?_map, Option.mem_def, Option.map_eq_some_iff] at hp
    obtain ⟨c, hc, rfl⟩ := hp
    simpa [startsInWord, hc] using hw
  | value v => rfl

theorem endsInWord_of_mem_getLast? {p : Piece} (hp : p ∈ (t.pieces d n).getLast?)
    (hw : p.inWord = true) : t.endsInWord = true := by
  cases t with
  | name s =>
    simp only [pieces, List.getLast?_singleton, Option.mem_some_iff] at hp
    subst hp
    cases hw
  | word w =>
    simp only [pieces, List.getLast?_map, Option.mem_def, Option.map_eq_some_iff] at hp
    obtain ⟨c, hc, rfl⟩ := hp
    simpa [endsInWord, hc] using hw
  | value v => rfl

end Token

theorem Piece.lexemes_append {ps qs : List Piece}
    (h : ∀ p ∈ ps.getLast?, ∀ q ∈ qs.head?, p.joins q = false) :
    lexemes (ps ++ qs) = lexemes ps ++ lexemes qs := by
  rw [lexemes, List.splitBy_append h, List.filterMap_append]
  rfl

/-- The text of well-spaced tokens is scanned token by token. -/
theorem scanFrom_renderAfter {ts : List Token} (h : WellSpaced ts) (d : Dialect) (n : Nat) :
    scanFrom d.quote .outside (renderAfter d n ts) = some (piecesAfter d n ts) := by
  induction ts generalizing n with
  | nil => rfl
  | cons t ts ih =>
    have ht := h.plain t List.mem_cons_self
    have hr : t.isName = true → (renderAfter d (n + t.arity) ts).head? ≠ some d.quote := by
      intro hn
      cases ts with
      | nil => simp [renderAfter]
      | cons u us =>
        have ha : t.apart u = true := (List.isChain_cons_cons.1 h.apart).1
        rw [renderAfter_cons]
        exact Token.head?_chars_ne_quote (h.tail.plain u List.mem_cons_self)
          (by simp_all [Token.apart]) _
    rw [renderAfter_cons, Token.scanFrom_chars ht hr, ih h.tail, piecesAfter]
    rfl

/-- The pieces of well-spaced tokens are cut token by token. -/
theorem lexemes_piecesAfter {ts : List Token} (h : WellSpaced ts) (d : Dialect) (n : Nat) :
    Piece.lexemes (piecesAfter d n ts) = lexemesAfter d n ts := by
  induction ts generalizing n with
  | nil => rfl
  | cons t ts ih =>
    rw [piecesAfter, Piece.lexemes_append, ih h.tail, lexemesAfter]
    intro p hp q hq
    cases ts with
    | nil => simp [piecesAfter] at hq
    | cons u us =>
      have ha : t.apart u = true := (List.isChain_cons_cons.1 h.apart).1
      have hq : q ∈ (u.pieces d (n + t.arity)).head? := by
        have hne : u.pieces d (n + t.arity) ≠ [] :=
          Token.pieces_ne_nil (h.tail.plain u List.mem_cons_self)
        rwa [piecesAfter, List.head?_append_of_ne_nil _ hne] at hq
      cases hpw : p.inWord with
      | false => simp [Piece.joins, hpw]
      | true =>
        have hqw : q.inWord = false := by
          have hp := Token.endsInWord_of_mem_getLast? hp hpw
          refine Bool.eq_false_iff.2 fun hqw => ?_
          have hq := Token.startsInWord_of_mem_head? hq hqw
          simp [Token.apart, hp, hq] at ha
        simp [Piece.joins, hqw]

/-- The text of well-spaced tokens is read back as their lexemes. -/
theorem lexemes?_renderAfter {ts : List Token} (h : WellSpaced ts) (d : Dialect) (n : Nat) :
    d.lexemes? (.ofList (renderAfter d n ts)) = some (lexemesAfter d n ts) := by
  rw [Dialect.lexemes?, String.toList_ofList, scanFrom_renderAfter h, Option.map_some,
    lexemes_piecesAfter h]

/-- Doubled quotes and keywords between quotes do not disturb the scan. -/
example : Dialect.mysql.lexemes? "(\x60a\x60\x60b\x60 >= ?) OR t.\x60 OR \x60" =
    some [.mark '(', .name "a\x60b", .word ">=", .word "?", .mark ')', .word "OR", .word "t",
      .mark '.', .name " OR "] := by decide

end ListQuery.Sql
