import ModuleContainers.Proofs.Java.ClassName
import ModuleContainers.Proofs.Lexical.Token

/-!
# Reading a text piece by piece

A source text is put together from pieces, and its tokens are the tokens of the
pieces one after the other, as long as no token goes on across a seam. `ReadsAs`
says what a piece reads as on its own, and in which state it leaves the lexer:
a `sealed` piece leaves nothing pending, and a `loose` one may leave a word, a
number or a literal that is complete if what follows is a stop (`isStop`).

So a sealed piece may be followed by anything (`ReadsAs.append`), and a loose
one by a piece that starts with a stop (`ReadsAs.append_stop`). The tokens of a
whole text are those of its pieces (`ReadsAs.lex`).
-/

namespace ModuleContainers.Lexical

open ModuleContainers.Java (IsPath hasIdentifierShape isIdentifierPart)

/-! ## The judgment -/

/-- Nothing that may be pending goes on with the character. -/
def isStop (c : Char) : Bool := !isIdentifierPart c && c != '"' && c != '\\'

/-- What is pending is a token if a stop follows. -/
def Mode.waits : Mode → Bool
  | .between | .word _ | .number _ | .literalEnd _ => true
  | _ => false

/-- How a piece ends. -/
inductive Ending where
  /-- Nothing is pending. -/
  | sealed
  /-- A stop has to follow. -/
  | loose
  deriving Repr, DecidableEq

/-- The piece may end with this pending. -/
def Ending.admits : Ending → Mode → Bool
  | .sealed, mode => mode == .between
  | .loose, mode => mode.waits

/-- The piece reads as the tokens and ends in that way. -/
def ReadsAs (e : Ending) (text : List Char) (tokens : List Token) : Prop :=
  ∃ out mode last, lexer.feed fresh text = some (out, (.settled, mode)) ∧ e.admits mode = true
    ∧ close mode = some last ∧ out ++ last = tokens

/-- The judgment as a computation, for pieces that are known. -/
def readsAs (e : Ending) (text : List Char) (tokens : List Token) : Bool :=
  match lexer.feed fresh text with
  | some (out, (.settled, mode)) =>
      e.admits mode && (close mode).any fun last => out ++ last == tokens
  | _ => false

theorem readsAs_iff {e : Ending} {text : List Char} {tokens : List Token} :
    readsAs e text tokens = true ↔ ReadsAs e text tokens := by
  unfold readsAs ReadsAs
  split
  · next out mode h => simp [h, and_assoc, Option.any_eq_true]
  · next h =>
      simp only [Bool.false_eq_true, false_iff]
      rintro ⟨out, mode, last, hfeed, -⟩
      exact h out mode hfeed

instance (e : Ending) (text : List Char) (tokens : List Token) :
    Decidable (ReadsAs e text tokens) :=
  decidable_of_iff _ readsAs_iff

variable {e e' : Ending} {a b text : List Char} {x y tokens : List Token}

theorem Ending.waits_of_admits {mode : Mode} (h : e.admits mode = true) : mode.waits = true := by
  cases e with
  | sealed => rw [beq_iff_eq.mp h]; rfl
  | loose => exact h

theorem ReadsAs.loosen (h : ReadsAs e text tokens) : ReadsAs .loose text tokens := by
  obtain ⟨out, mode, last, hfeed, hadmits, hrest⟩ := h
  exact ⟨out, mode, last, hfeed, Ending.waits_of_admits hadmits, hrest⟩

theorem readsAs_nil : ReadsAs .sealed [] [] := ⟨[], .between, [], rfl, rfl, rfl, rfl⟩

/-- A whole text that can be read as a piece has the tokens of the piece. -/
theorem ReadsAs.lex {text : String} (h : ReadsAs e text.toList tokens) :
    lex text = some tokens := by
  obtain ⟨out, mode, last, hfeed, -, hclose, rfl⟩ := h
  rw [lex_eq_run]
  exact Transducer.run_of_feed hfeed (by simp [lexer, Transducer.compose, escapes, scanner,
    Transducer.run, hclose])

/-! ## Seams -/

theorem ReadsAs.append (ha : ReadsAs .sealed a x) (hb : ReadsAs e b y) :
    ReadsAs e (a ++ b) (x ++ y) := by
  obtain ⟨out, mode, last, hfeed, hadmits, hclose, rfl⟩ := ha
  obtain ⟨out', mode', last', hfeed', hrest⟩ := hb
  obtain rfl : mode = .between := beq_iff_eq.mp hadmits
  obtain rfl : [] = last := Option.some.inj hclose
  exact ⟨out ++ out', mode', last', Transducer.feed_append_of_feed hfeed hfeed', hrest.1,
    hrest.2.1, by rw [List.append_assoc, hrest.2.2, List.append_nil]⟩

theorem extend_of_stop {mode : Mode} {c : Char} (hmode : mode.waits = true)
    (hc : isStop c = true) : extend mode c = none := by
  simp only [isStop, Bool.and_eq_true, Bool.not_eq_true', bne_iff_ne] at hc
  cases mode <;> simp_all [Mode.waits, extend]

/-- Where a token waits for a stop, a stop gives that token and is then read as
it is between tokens. -/
theorem step_of_stop {mode : Mode} {c : Char} (hmode : mode.waits = true)
    (hc : isStop c = true) {last : List Token} (hclose : close mode = some last) :
    lexer.step (.settled, mode) c =
      (lexer.step fresh c).map fun first => (last ++ first.1, first.2) := by
  have hescape : c ≠ '\\' := by simp_all [isStop]
  have hsettled : escapes.step .settled c = some ([c], .settled) := by simp [escapes, hescape]
  have hmode := extend_of_stop hmode hc
  have hbetween : extend .between c = none := rfl
  have hnothing : close .between = some [] := rfl
  simp only [lexer, Transducer.compose, fresh, hsettled, Option.bind_some, Transducer.feed, scanner,
    hmode, hbetween, hclose, hnothing]
  cases start c <;> simp

theorem ReadsAs.append_stop {c : Char} (ha : ReadsAs e a x) (hb : ReadsAs e' (c :: b) y)
    (hc : isStop c = true) : ReadsAs e' (a ++ c :: b) (x ++ y) := by
  obtain ⟨out, mode, last, hfeed, hadmits, hclose, rfl⟩ := ha
  obtain ⟨out', mode', last', hfeed', hrest⟩ := hb
  have hflush : lexer.feed (.settled, mode) (c :: b) = some (last ++ out', (.settled, mode')) := by
    have hstep := step_of_stop (Ending.waits_of_admits hadmits) hc hclose
    simp only [Transducer.feed] at hfeed' ⊢
    rw [hstep]
    cases hfirst : lexer.step fresh c with
    | none => simp [hfirst] at hfeed'
    | some first =>
        simp only [hfirst, Option.bind_some, Option.map_some] at hfeed' ⊢
        cases hmore : lexer.feed first.2 b with
        | none => simp [hmore] at hfeed'
        | some more =>
            simp only [hmore, Option.map_some, Option.some.injEq, Prod.mk.injEq] at hfeed' ⊢
            exact ⟨by rw [List.append_assoc, hfeed'.1], hfeed'.2⟩
  exact ⟨out ++ (last ++ out'), mode', last', Transducer.feed_append_of_feed hfeed hflush, hrest.1,
    hrest.2.1, by simp [← hrest.2.2]⟩

/-! ## Blanks and words -/

theorem readsAs_blank {c : Char} (h : isSpace c = true) : ReadsAs .sealed [c] [] := by
  have hc : c ≠ '\\' := by rintro rfl; revert h; decide
  exact ⟨[], .between, [], by
    simp [Transducer.feed, lexer, Transducer.compose, escapes, scanner, fresh, hc, extend, close,
      start, h], rfl, rfl, rfl⟩

theorem readsAs_blanks : ∀ {text : List Char}, (∀ c ∈ text, isSpace c = true) →
    ReadsAs .sealed text []
  | [], _ => readsAs_nil
  | c :: _, h =>
      (readsAs_blank (h c (List.mem_cons_self ..))).append
        (readsAs_blanks fun c hc => h c (List.mem_cons_of_mem _ hc))

theorem isIdentifierPart_ne_backslash {c : Char} (h : isIdentifierPart c = true) : c ≠ '\\' := by
  rintro rfl
  revert h
  decide

/-- Characters of identifiers go on with a word and with a number alike. -/
theorem feed_parts (make : List Char → Mode)
    (hmake : ∀ text c, isIdentifierPart c = true → extend (make text) c = some (make (text ++ [c])))
    (text : List Char) :
    ∀ {rest : List Char}, (∀ c ∈ rest, isIdentifierPart c = true) →
      lexer.feed (.settled, make text) rest = some ([], (.settled, make (text ++ rest)))
  | [], _ => by simp
  | c :: rest, h => by
      have hc := h c (List.mem_cons_self ..)
      have hne := isIdentifierPart_ne_backslash hc
      have hrest := feed_parts make hmake (text ++ [c]) fun d hd => h d (List.mem_cons_of_mem _ hd)
      have hstep : lexer.step (.settled, make text) c
          = some ([], (.settled, make (text ++ [c]))) := by
        simp [lexer, Transducer.compose, escapes, scanner, Transducer.feed, hne, hmake text c hc]
      simp [Transducer.feed, hstep, hrest]

theorem readsAs_word {text : List Char} (h : hasIdentifierShape text = true) :
    ReadsAs .loose text [.word (String.ofList text)] := by
  cases text with
  | nil => cases h
  | cons c rest =>
      simp only [hasIdentifierShape, Bool.and_eq_true, List.all_eq_true] at h
      have hpart := Java.isIdentifierPart_of_start h.1
      have hspace : isSpace c = false := by
        by_contra hspace
        have hblank : ∀ d : Char, isSpace d = true → isIdentifierPart d = false := by
          intro d hd
          simp only [isSpace, List.contains_eq_mem, decide_eq_true_eq, List.mem_cons,
            List.not_mem_nil, or_false] at hd
          rcases hd with rfl | rfl | rfl | rfl | rfl <;> decide
        rw [hblank c (Bool.of_not_eq_false hspace)] at hpart
        cases hpart
      have hfirst : lexer.step fresh c = some ([], (.settled, .word [c])) := by
        simp [lexer, Transducer.compose, escapes, scanner, fresh, Transducer.feed,
          isIdentifierPart_ne_backslash hpart, extend, close, start, hspace, h.1]
      have hrest := feed_parts .word (fun text c hc => by simp [extend, hc]) [c] h.2
      exact ⟨[], .word (c :: rest), _, by simp [Transducer.feed, hfirst, hrest], rfl, rfl, rfl⟩

/-! ## Numbers -/

theorem mem_digits {c : Char} (h : c.isDigit = true) :
    c ∈ ['0', '1', '2', '3', '4', '5', '6', '7', '8', '9'] := by
  have hrange : 48 ≤ c.toNat ∧ c.toNat ≤ 57 := Char.isDigit_iff_toNat.mp h
  have htable : ∀ n ∈ List.range' 48 10,
      Char.ofNat n ∈ ['0', '1', '2', '3', '4', '5', '6', '7', '8', '9'] := by decide
  have hc := htable c.toNat (List.mem_range'_1.mpr (by omega))
  rwa [Char.ofNat_toNat] at hc

/-- A digit starts a number, behind a sign as well, and goes on with a word. -/
theorem step_digit : ∀ c ∈ ['0', '1', '2', '3', '4', '5', '6', '7', '8', '9'],
    lexer.step fresh c = some ([], (.settled, .number [c]))
      ∧ lexer.step (.settled, .operator ['-']) c = some ([.symbol "-"], (.settled, .number [c]))
      ∧ isIdentifierPart c = true := by
  intro c hc
  simp only [List.mem_cons, List.not_mem_nil, or_false] at hc
  rcases hc with rfl | rfl | rfl | rfl | rfl | rfl | rfl | rfl | rfl | rfl <;> decide

theorem readsAs_number {text : List Char} (hne : text ≠ []) (h : ∀ c ∈ text, c.isDigit = true) :
    ReadsAs .loose text [.number (String.ofList text)]
      ∧ ReadsAs .loose ('-' :: text) [.symbol "-", .number (String.ofList text)] := by
  cases text with
  | nil => exact absurd rfl hne
  | cons c rest =>
      obtain ⟨hfirst, hsigned, -⟩ := step_digit c (mem_digits (h c (List.mem_cons_self ..)))
      have hpart : ∀ d ∈ rest, isIdentifierPart d = true := fun d hd =>
        (step_digit d (mem_digits (h d (List.mem_cons_of_mem _ hd)))).2.2
      have hrest := feed_parts .number (fun text c hc => by simp [extend, hc]) [c] hpart
      have hminus : lexer.step fresh '-' = some ([], (.settled, .operator ['-'])) := by decide
      constructor
      · exact ⟨[], .number (c :: rest), _, by simp [Transducer.feed, hfirst, hrest], rfl, rfl, rfl⟩
      · exact ⟨[.symbol "-"], .number (c :: rest), _,
          by simp [Transducer.feed, hminus, hsigned, hrest], rfl, rfl, rfl⟩

theorem isDigit_of_mem_repr {n : Nat} {c : Char} (h : c ∈ (toString n).toList) :
    c.isDigit = true := by
  rw [show toString n = n.repr from rfl, Nat.toList_repr] at h
  exact Nat.isDigit_of_mem_toDigits (by decide) (by decide) h

theorem repr_ne_nil (n : Nat) : (toString n).toList ≠ [] := by
  rw [show toString n = n.repr from rfl, Nat.toList_repr]
  exact Nat.toDigits_ne_nil

/-- The tokens of a number, which may have a sign. -/
def numberTokens : Int → List Token
  | .ofNat n => [.number (toString n)]
  | .negSucc n => [.symbol "-", .number (toString (n + 1))]

theorem readsAs_int (i : Int) : ReadsAs .loose (toString i).toList (numberTokens i) := by
  cases i with
  | ofNat n =>
      have hread := (readsAs_number (repr_ne_nil n) fun c hc => isDigit_of_mem_repr hc).1
      rwa [String.ofList_toList] at hread
  | negSucc n =>
      have hread := (readsAs_number (repr_ne_nil (n + 1)) fun c hc => isDigit_of_mem_repr hc).2
      rw [String.ofList_toList] at hread
      have hsign : (toString (Int.negSucc n)).toList = '-' :: (toString (n + 1)).toList := by
        rw [show toString (Int.negSucc n) = "-" ++ toString (n + 1) from rfl, String.toList_append]
        rfl
      rwa [hsign]

/-! ## Paths -/

/-- The tokens of names with dots between them. -/
def pathTokens (text : String) : List Token :=
  ((Text.splitOn '.' text).map Token.word).intersperse (.symbol ".")

theorem mem_of_mem_intersperse {α : Type} {a separator : α} {l : List α}
    (h : a ∈ l.intersperse separator) : a = separator ∨ a ∈ l := by
  induction l with
  | nil => cases h
  | cons first rest ih =>
      cases rest with
      | nil => exact .inr h
      | cons next more =>
          rw [List.intersperse_cons_cons, List.mem_cons, List.mem_cons] at h
          rcases h with rfl | rfl | h
          · exact .inr (List.mem_cons_self ..)
          · exact .inl rfl
          · exact (ih h).imp_right (List.mem_cons_of_mem _)

theorem mem_pathTokens {text : String} {token : Token} (h : token ∈ pathTokens text) :
    token = .symbol "." ∨ ∃ part ∈ Text.splitOn '.' text, token = .word part := by
  rcases mem_of_mem_intersperse h with hdot | hword
  · exact .inl hdot
  · obtain ⟨part, hpart, rfl⟩ := List.mem_map.mp hword
    exact .inr ⟨part, hpart, rfl⟩

theorem symbol_not_mem_path {symbol : String} (h : symbol ≠ ".") (text : String) :
    .symbol symbol ∉ pathTokens text := by
  intro hmem
  rcases mem_pathTokens hmem with hdot | ⟨part, -, heq⟩
  · exact h (Token.symbol.inj hdot)
  · cases heq

theorem readsAs_path_parts : ∀ {parts : List (List Char)}, parts ≠ [] →
    (∀ part ∈ parts, hasIdentifierShape part = true) →
    ReadsAs .loose (['.'].intercalate parts)
      ((parts.map fun part => Token.word (String.ofList part)).intersperse (.symbol "."))
  | [part], _, h => by simpa using readsAs_word (h part (List.mem_singleton_self _))
  | part :: next :: rest, _, h => by
      have hdot : ReadsAs .sealed ['.'] [.symbol "."] := by decide
      have hrest := readsAs_path_parts (List.cons_ne_nil next rest) fun p hp =>
        h p (List.mem_cons_of_mem _ hp)
      have hword := readsAs_word (h part (List.mem_cons_self ..))
      simpa using hword.append_stop (hdot.append hrest) (by decide)

theorem readsAs_path {text : String} (h : IsPath text) :
    ReadsAs .loose text.toList (pathTokens text) := by
  have hparts := readsAs_path_parts (List.splitOn_ne_nil '.' text.toList) fun part hp => by
    have hshape := Java.isIdentifier_shape (h (String.ofList part) (List.mem_map_of_mem hp))
    rwa [String.toList_ofList] at hshape
  rw [List.intercalate_splitOn] at hparts
  simpa [pathTokens, Text.splitOn, Function.comp_def] using hparts

end ModuleContainers.Lexical
