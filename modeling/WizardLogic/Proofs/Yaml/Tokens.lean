import Mathlib
import WizardLogic.Proofs.Yaml.Plain

/-!
# The tokens of JSON text

One iteration of the scanner skips white space and reads one token. `Step.Stands` says where a scanner
stands in a JSON text: how deep in brackets, before which characters, behind which tokens. Each kind
of token takes the scanner from one such place to another, and the lemma about it has the name of what
reads it (`openFlow_run`, `closeFlow_run`, `flowEntry_run`, `plainScalar_run`).

A key is two iterations (`Step.run_key`). Its string is read like any other one and leaves a slot in
front of it; the colon behind it fills the slot, if the string is still the candidate for a key. It is
if it is on one line and not too long (`Step.keepsKey`).
-/

namespace WizardLogic.Yaml

open Json (quote)
open Stateful

/-! ### Pieces -/

theorem Piece.tokens_append (filled : List (ℕ × List Token)) (ps qs : List Piece) :
    Piece.tokens filled (ps ++ qs) = Piece.tokens filled ps ++ Piece.tokens filled qs := by
  induction ps with
  | nil => rfl
  | cons p ps ih => cases p <;> simp [Piece.tokens, ih]

/-- Filling a slot changes nothing before it is used. -/
theorem Piece.tokens_cons_filled {filled : List (ℕ × List Token)} {ps : List Piece} {id : ℕ}
    (found : List Token) (h : Piece.slot id ∉ ps) :
    Piece.tokens ((id, found) :: filled) ps = Piece.tokens filled ps := by
  induction ps with
  | nil => rfl
  | cons p ps ih =>
    obtain ⟨hp, hps⟩ := not_or.mp (mt List.mem_cons.mpr h)
    cases p with
    | token t => rw [Piece.tokens, Piece.tokens, ih hps]
    | slot k =>
      have hne : (k == id) = false := by
        rw [beq_eq_false_iff_ne]
        rintro rfl
        exact hp rfl
      rw [Piece.tokens, Piece.tokens, ih hps, List.lookup_cons, hne]

namespace Step

/-! ### States of the scanner -/

/-- Where the scanner of a JSON text stands: in so many brackets, before some characters and behind
some tokens. No candidate for a key has to be one, and slots are told apart by their numbers. -/
structure Stands (s : Scanner) (flow : ℕ) (rest : List Char) (ts : List Token) : Prop where
  flow : s.flow = flow
  rest : s.cursor.rest = rest
  outer : s.outer = []
  optional : ∀ e ∈ s.candidates, e.2.required = false
  slot_lt : ∀ id, Piece.slot id ∈ s.pieces → id < s.slots
  filled_lt : ∀ e ∈ s.filled, e.1 < s.slots
  shown : Piece.tokens s.filled s.pieces.reverse = ts

/-- White space in front of a token: spaces, or a line break and spaces. -/
inductive IsBlank : List Char → Prop
  | spaces (k : ℕ) : IsBlank (List.replicate k ' ')
  | line (k : ℕ) : IsBlank ('\n' :: List.replicate k ' ')

/-- A character that is no white space and begins no comment. -/
def startsToken (ch : Char) : Bool := !endsWord (some ch) && ch != '#'

variable {s : Scanner} {flow : ℕ} {rest : List Char} {ts : List Token}

theorem read_of_ok {α : Type} {r : Scan α} {a : α} {c : Cursor} (h : r s.cursor = .ok (a, c)) :
    read r s = .ok (a, { s with cursor := c }) := by
  have hget : (get : Step Scanner) s = .ok (s, s) := rfl
  have hrun : (liftM (r.run s.cursor : Except Failure (α × Cursor)) : Step (α × Cursor)) s =
      .ok ((a, c), s) := by
    rw [StateT.run, h]
    rfl
  rw [read, bind_of_ok hget, bind_of_ok hrun]
  rfl

/-! ### Between tokens -/

theorem get_run (s : Scanner) : (get : Step Scanner) s = .ok (s, s) := rfl

theorem skipSpaces_run {c : Cursor} {k : ℕ} {ch : Char}
    (h : c.rest = List.replicate k ' ' ++ ch :: rest) (hch : ch ≠ ' ') :
    Scan.skipSpaces c = .ok ((), c.skip k) := by
  have htake := Scan.takeWhile_run (p := (· = ' ')) h (by simp) (by simp [hch])
  rw [List.length_replicate] at htake
  rw [Scan.skipSpaces, bind_of_ok htake]
  rfl

theorem lineBreak_run_of_not {c : Cursor} {ch : Char} (h : c.rest = ch :: rest)
    (hch : isBreak ch = false) : Scan.lineBreak c = .ok ([], c) := by
  have hseparators : (decide (ch = '\u2028') || decide (ch = '\u2029')) = false := by
    rw [Bool.eq_false_iff]
    intro hsep
    have := (Scan.escapeChar_separator hsep).2
    rw [hch] at this
    cases this
  rw [Scan.lineBreak, bind_of_ok (Scan.peek_run c), h]
  simp only [List.head?_cons, hseparators, hch, Bool.false_eq_true, reduceIte]
  rfl

/-- Spaces in front of a token are skipped. -/
theorem skipToToken_spaces {k n : ℕ} {ch : Char}
    (h : s.cursor.rest = List.replicate k ' ' ++ ch :: rest) (hch : startsToken ch = true) :
    skipToToken (n + 1) s = .ok ((), { s with cursor := s.cursor.skip k }) := by
  have hplain : ch ≠ ' ' ∧ isBreak ch = false ∧ ch ≠ '#' := by
    simp [startsToken, endsWord, endsItem, endsLine] at hch
    exact ⟨hch.1.1.2, hch.1.1.1, hch.2⟩
  have hrest : (s.cursor.skip k).rest = ch :: rest := by
    have := s.cursor.skip_append h
    rwa [List.length_replicate] at this
  rw [skipToToken, bind_of_ok (read_of_ok (skipSpaces_run h hplain.1)),
    bind_of_ok (read_of_ok (Scan.peek_run _)), hrest]
  simp only [List.head?_cons, Option.some.injEq, hplain, reduceIte]
  rw [bind_of_ok (read_of_ok (lineBreak_run_of_not hrest hplain.2.1))]
  rfl

/-- White space in front of a token in brackets is skipped. -/
theorem skipToToken_blank {n : ℕ} {space : List Char} {ch : Char} (hspace : IsBlank space)
    (hflow : s.flow ≠ 0) (h : s.cursor.rest = space ++ ch :: rest) (hch : startsToken ch = true) :
    skipToToken (n + 2) s = .ok ((), { s with cursor := s.cursor.skip space.length }) := by
  cases hspace with
  | spaces k => rw [skipToToken_spaces h hch, List.length_replicate]
  | line k =>
    have hnone : Scan.skipSpaces s.cursor = .ok ((), s.cursor.skip 0) :=
      skipSpaces_run (k := 0) h (by decide)
    have hbreak : Scan.lineBreak s.cursor = .ok (['\n'], s.cursor.skip 1) := by
      rw [Scan.lineBreak, bind_of_ok (Scan.peek_run _), h]
      rfl
    have hrest : (s.cursor.skip 1).rest = List.replicate k ' ' ++ ch :: rest := by
      rw [Cursor.skip_rest, h]
      rfl
    rw [skipToToken, bind_of_ok (read_of_ok hnone), Cursor.skip,
      bind_of_ok (read_of_ok (Scan.peek_run _)), h]
    simp only [List.cons_append, List.head?_cons, Option.some.injEq, Char.reduceEq, reduceIte]
    rw [bind_of_ok (read_of_ok hbreak)]
    simp only [List.isEmpty_cons, Bool.false_eq_true, reduceIte]
    rw [bind_of_ok (get_run _)]
    simp only [hflow, reduceIte]
    rw [skipToToken_spaces (k := k) hrest hch, Cursor.skip_skip, List.length_cons,
      List.length_replicate, Nat.add_comm 1]

/-- Whether a candidate is out of reach of a colon at a place. -/
def isStale (c : Cursor) (k : Candidate) : Bool := k.line != c.line || c.index - k.index > keyReach

/-- Where the scanner stands at the next token, behind some white space. -/
def atToken (s : Scanner) (space : ℕ) : Scanner :=
  { s with
    cursor := s.cursor.skip space
    candidates := s.candidates.filter fun e => !isStale (s.cursor.skip space) e.2 }

/-- Where no candidate is required, none is required of those to be dropped. -/
theorem not_any_required (hopt : ∀ e ∈ s.candidates, e.2.required = false)
    (drop : ℕ × Candidate → Bool) :
    ¬ (s.candidates.any fun e => drop e && e.2.required) = true := by
  rw [Bool.not_eq_true, List.any_eq_false]
  intro e he
  simp [hopt e he]

theorem dropStale_run (hopt : ∀ e ∈ s.candidates, e.2.required = false) :
    dropStale s = .ok ((), { s with
      candidates := s.candidates.filter fun e => !isStale s.cursor e.2 }) := by
  rw [dropStale, bind_of_ok (get_run s)]
  exact congrFun (if_neg (not_any_required hopt fun e => isStale s.cursor e.2)) s

theorem closeBlocks_run (column : ℤ) (houter : s.outer = []) :
    closeBlocks column s = .ok ((), s) := by
  obtain ⟨cursor, flow, indent, outer, keyAllowed, candidates, slots, filled, pieces⟩ := s
  obtain rfl : outer = [] := houter
  cases flow <;> rfl

/-- **The next token is read where the white space in front of it ends.** -/
theorem run_token {n : ℕ} {space : List Char} {ch : Char}
    (h : Stands s flow (space ++ ch :: rest) ts)
    (hskip : skipToToken (s.cursor.rest.length + 1) s =
      .ok ((), { s with cursor := s.cursor.skip space.length })) :
    run (n + 1) s = (token ch >>= fun _ => run n) (atToken s space.length) := by
  have hrest : (s.cursor.skip space.length).rest = ch :: rest := s.cursor.skip_append h.rest
  have hstale : dropStale { s with cursor := s.cursor.skip space.length } =
      .ok ((), atToken s space.length) := dropStale_run h.optional
  have hclose := closeBlocks_run (s := atToken s space.length)
    (atToken s space.length).cursor.column h.outer
  have hpeek : Scan.peek (atToken s space.length).cursor =
      .ok (some ch, (atToken s space.length).cursor) := by
    rw [Scan.peek_run]
    exact congrArg (fun cs => Except.ok (cs, _)) (by rw [atToken, hrest]; rfl)
  rw [run, bind_of_ok (get_run s), bind_of_ok hskip, bind_of_ok hstale, bind_of_ok (get_run _),
    bind_of_ok hclose, bind_of_ok (read_of_ok hpeek)]

theorem Stands.atToken {space : List Char} (h : Stands s flow (space ++ rest) ts) :
    Stands (atToken s space.length) flow rest ts where
  flow := h.flow
  rest := s.cursor.skip_append h.rest
  outer := h.outer
  optional := fun e he => h.optional e (List.mem_of_mem_filter he)
  slot_lt := h.slot_lt
  filled_lt := h.filled_lt
  shown := h.shown

/-- A token in brackets is read where the white space in front of it ends. -/
theorem run_inBrackets (n : ℕ) {space : List Char} {ch : Char}
    (h : Stands s (flow + 1) (space ++ ch :: rest) ts) (hspace : IsBlank space)
    (hch : startsToken ch = true) :
    run (n + 1) s = (token ch >>= fun _ => run n) (atToken s space.length) := by
  refine run_token h ?_
  have hlength : s.cursor.rest.length + 1 = (s.cursor.rest.length - 1) + 2 := by
    have : 0 < s.cursor.rest.length := by rw [h.rest]; simp
    omega
  rw [hlength]
  exact skipToToken_blank hspace (by rw [h.flow]; exact Nat.succ_ne_zero _) h.rest hch

/-! ### Candidates -/

theorem dropCandidate_run (hopt : ∀ e ∈ s.candidates, e.2.required = false) :
    dropCandidate s = .ok ((), { s with
      candidates := s.candidates.filter fun e => e.1 != s.flow }) := by
  rw [dropCandidate, bind_of_ok (get_run s)]
  exact congrFun (if_neg (not_any_required hopt fun e => e.1 = s.flow)) s

/-- The candidate for a key that begins here. -/
def candidate (s : Scanner) : Candidate :=
  ⟨s.slots, s.flow = 0 && s.indent = s.cursor.column, s.cursor.index, s.cursor.line,
    s.cursor.column⟩

/-- What noting a candidate comes to. -/
def noted (s : Scanner) : Scanner :=
  if s.keyAllowed then
    { s with
      candidates := (s.flow, candidate s) :: s.candidates.filter fun e => e.1 != s.flow
      slots := s.slots + 1
      pieces := .slot s.slots :: s.pieces }
  else s

theorem noteCandidate_run (hopt : ∀ e ∈ s.candidates, e.2.required = false) :
    noteCandidate s = .ok ((), noted s) := by
  rw [noteCandidate, bind_of_ok (get_run s), noted]
  split
  · rw [bind_of_ok (dropCandidate_run hopt)]
    rfl
  · rfl

/-- Noting a candidate adds no token. -/
theorem Stands.noted (h : Stands s flow rest ts) (hopt : (candidate s).required = false) :
    Stands (noted s) flow rest ts := by
  unfold Step.noted
  split
  · refine ⟨h.flow, h.rest, h.outer, ?_, ?_, ?_, ?_⟩
    · rintro e he
      rcases List.mem_cons.mp he with rfl | he
      · exact hopt
      · exact h.optional e (List.mem_of_mem_filter he)
    · rintro id hid
      rcases List.mem_cons.mp hid with hid | hid
      · cases hid
        exact Nat.lt_succ_self _
      · exact Nat.lt_succ_of_lt (h.slot_lt id hid)
    · exact fun e he => Nat.lt_succ_of_lt (h.filled_lt e he)
    · have hfresh : s.filled.lookup s.slots = none := by
        rw [List.lookup_eq_none_iff]
        intro e he
        have := h.filled_lt e he
        simp
        omega
      rw [List.reverse_cons, Piece.tokens_append, h.shown, Piece.tokens, hfresh]
      simp [Piece.tokens]
  · exact h

/-- A candidate in brackets does not have to be a key. -/
theorem candidate_optional (hflow : s.flow ≠ 0) : (candidate s).required = false := by
  simp [candidate, hflow]

/-! ### Marks -/

/-- Dropping candidates changes nothing else. -/
theorem Stands.filtered (h : Stands s flow rest ts) (p : ℕ × Candidate → Bool) :
    Stands { s with candidates := s.candidates.filter p } flow rest ts :=
  ⟨h.flow, h.rest, h.outer, fun e he => h.optional e (List.mem_of_mem_filter he), h.slot_lt,
    h.filled_lt, h.shown⟩

/-- What the scanner knows when a token of some characters has been found, given the number of
brackets and whether a key may begin behind it. -/
def found (s : Scanner) (flow : ℕ) (key : Bool) (length : ℕ) (t : Token) : Scanner :=
  { s with
    cursor := s.cursor.skip length
    flow
    keyAllowed := key
    pieces := .token t :: s.pieces }

theorem Stands.found {cs : List Char} (h : Stands s flow (cs ++ rest) ts) (flow' : ℕ) (key : Bool)
    (t : Token) : Stands (found s flow' key cs.length t) flow' rest (ts ++ [t]) where
  flow := rfl
  rest := s.cursor.skip_append h.rest
  outer := h.outer
  optional := h.optional
  slot_lt := fun id hid => h.slot_lt id (by simpa [Step.found] using hid)
  filled_lt := h.filled_lt
  shown := by
    have hpieces : (Step.found s flow' key cs.length t).pieces.reverse =
        s.pieces.reverse ++ [.token t] := List.reverse_cons
    rw [hpieces, Piece.tokens_append]
    exact congrArg (· ++ [t]) h.shown

theorem Stands.found_mark {ch : Char} (h : Stands s flow (ch :: rest) ts) (flow' : ℕ) (key : Bool)
    (t : Token) : Stands (Step.found s flow' key 1 t) flow' rest (ts ++ [t]) :=
  have h' : Stands s flow ([ch] ++ rest) ts := h
  h'.found flow' key t

/-- An opening bracket. -/
theorem openFlow_run {ch : Char} (h : Stands s flow (ch :: rest) ts)
    (hopt : (candidate s).required = false) (t : Token) :
    ∃ s', openFlow t s = .ok ((), s') ∧ Stands s' (flow + 1) rest (ts ++ [t]) ∧
      s'.keyAllowed = true := by
  have hnoted := Stands.noted h hopt
  refine ⟨found (noted s) (flow + 1) true 1 t, ?_, hnoted.found_mark _ _ _, rfl⟩
  rw [openFlow, bind_of_ok (noteCandidate_run h.optional), ← hnoted.flow]
  rfl

/-- A closing bracket. -/
theorem closeFlow_run {ch : Char} (h : Stands s (flow + 1) (ch :: rest) ts) (t : Token) :
    ∃ s', closeFlow t s = .ok ((), s') ∧ Stands s' flow rest (ts ++ [t]) := by
  have hdropped := Stands.filtered h fun e => e.1 != s.flow
  refine ⟨_, ?_, hdropped.found_mark flow false t⟩
  rw [closeFlow, bind_of_ok (dropCandidate_run h.optional), bind_of_ok (get_run _)]
  simp only [h.flow]
  rfl

/-- The mark between items. -/
theorem flowEntry_run (h : Stands s flow (',' :: rest) ts) :
    ∃ s', flowEntry s = .ok ((), s') ∧ Stands s' flow rest (ts ++ [.flowEntry]) ∧
      s'.keyAllowed = true := by
  have hdropped := Stands.filtered h fun e => e.1 != s.flow
  refine ⟨_, ?_, hdropped.found_mark flow true .flowEntry, rfl⟩
  have hallow : allowKey true s = .ok ((), { s with keyAllowed := true }) := rfl
  rw [flowEntry, bind_of_ok hallow,
    bind_of_ok (dropCandidate_run (s := { s with keyAllowed := true }) h.optional), ← h.flow]
  rfl

/-! ### Scalars -/

/-- A quoted string. -/
theorem nodeToken_quote {text : String} (h : Stands s (flow + 1) (quote false text ++ rest) ts)
    (htext : Scan.keepsText text = true) :
    nodeToken ((Token.scalar · false) <$> Scan.quotedScalar true) s =
      .ok ((), found (noted s) (flow + 1) false (quote false text).length (.scalar text false)) := by
  have hnoted := Stands.noted h (candidate_optional (by rw [h.flow]; exact Nat.succ_ne_zero _))
  have hread : ((Token.scalar · false) <$> Scan.quotedScalar true) (noted s).cursor =
      .ok (.scalar text false, (noted s).cursor.skip (quote false text).length) := by
    rw [map_eq_pure_bind, bind_of_ok (Scan.quotedScalar_quote htext hnoted.rest), pure_run]
  have hallow : allowKey false (noted s) = .ok ((), { noted s with keyAllowed := false }) := rfl
  rw [nodeToken, bind_of_ok (noteCandidate_run h.optional), bind_of_ok hallow,
    bind_of_ok (read_of_ok (s := { noted s with keyAllowed := false }) hread), ← hnoted.flow]
  rfl

/-- A word. -/
theorem plainScalar_run {word space : List Char} {ch : Char} (hne : word ≠ [])
    (hword : ∀ ch ∈ word, Scan.isBareWordChar ch = true) (hspace : Scan.IsGap space)
    (hch : Scan.closesItem ch = true)
    (h : Stands s (flow + 1) (word ++ (space ++ ch :: rest)) ts) :
    ∃ s', plainScalar s = .ok ((), s') ∧
      Stands s' (flow + 1) (ch :: rest) (ts ++ [.scalar (String.ofList word) true]) := by
  have hflow : s.flow ≠ 0 := by rw [h.flow]; exact Nat.succ_ne_zero _
  have hnoted := Stands.noted h (candidate_optional hflow)
  have hinFlow : ((noted s).flow != 0) = true := by
    rw [hnoted.flow]
    simp
  have hread := @Scan.plainScalar_word (noted s).cursor (noted s).indent _ _ _ _ hne hword hspace
    hnoted.rest hch
  have hrest : Stands (noted s) (flow + 1) ((word ++ space) ++ ch :: rest) ts := by
    rwa [List.append_assoc]
  refine ⟨_, ?_, Stands.found hrest (flow + 1) (!space.isEmpty) (.scalar (String.ofList word) true)⟩
  rw [plainScalar, bind_of_ok (noteCandidate_run h.optional), bind_of_ok (get_run _), hinFlow,
    bind_of_ok (read_of_ok hread), ← hnoted.flow, List.length_append]
  rfl

/-! ### Tokens by their first character -/

theorem token_quote (s : Scanner) :
    token '"' s = nodeToken ((Token.scalar · false) <$> Scan.quotedScalar true) s := by
  rw [token, bind_of_ok (get_run s)]
  simp

theorem token_list (s : Scanner) : token '[' s = openFlow .flowSequenceStart s := by
  rw [token, bind_of_ok (get_run s)]
  simp

theorem token_obj (s : Scanner) : token '\x7b' s = openFlow .flowMappingStart s := by
  rw [token, bind_of_ok (get_run s)]
  simp

theorem token_endList (s : Scanner) : token ']' s = closeFlow .flowSequenceEnd s := by
  rw [token, bind_of_ok (get_run s)]
  simp

theorem token_endObj (s : Scanner) : token '\x7d' s = closeFlow .flowMappingEnd s := by
  rw [token, bind_of_ok (get_run s)]
  simp

theorem token_comma (s : Scanner) : token ',' s = flowEntry s := by
  rw [token, bind_of_ok (get_run s)]
  simp

theorem token_colon (hflow : s.flow ≠ 0) : token ':' s = valueMark s := by
  rw [token, bind_of_ok (get_run s)]
  simp [hflow]

/-- A word that is written plainly: it begins with a letter or a digit, perhaps behind a sign. -/
structure IsWord (word : List Char) : Prop where
  bare : ∀ ch ∈ word, Scan.isBareWordChar ch = true
  head : ∃ ch tail, word = ch :: tail ∧
    (ch.isAlphanum = true ∨ ch = '-' ∧ ∃ d tail', tail = d :: tail' ∧ d.isAlphanum = true)

theorem endsWord_of_isAlphanum {ch : Char} (h : ch.isAlphanum = true) :
    endsWord (some ch) = false := by
  have hne : ∀ d : Char, d.isAlphanum = false → ch ≠ d := by
    rintro d hd rfl
    rw [h] at hd
    cases hd
  simp [endsWord, endsItem, endsLine, isBreak, hne ' ' rfl, hne '\t' rfl, hne '\n' rfl,
    hne '\u0085' (by decide), hne '\u2028' (by decide), hne '\u2029' (by decide)]

theorem token_alphanum {ch : Char} (h : ch.isAlphanum = true) : token ch s = plainScalar s := by
  have hne : ∀ d : Char, d.isAlphanum = false → ch ≠ d := by
    rintro d hd rfl
    rw [h] at hd
    cases hd
  have hgrave : ch.toNat ≠ 96 := by
    intro hn
    exact hne (Char.ofNat 96) rfl (by rw [← Char.ofNat_toNat ch, hn])
  have hstarts : ∀ following, startsPlain (s.flow != 0) ch following = true := fun following => by
    simp [startsPlain, endsWord_of_isAlphanum h, hgrave, hne _ (show '-'.isAlphanum = false from rfl),
      hne '?' rfl, hne ':' rfl, hne ',' rfl, hne '[' rfl, hne ']' rfl, hne '\x7b' rfl,
      hne '\x7d' rfl, hne '#' rfl, hne '&' rfl, hne '*' rfl, hne '!' rfl, hne '|' rfl,
      hne '>' rfl, hne '\'' rfl, hne '"' rfl, hne '%' rfl, hne '@' rfl]
  rw [token, bind_of_ok (get_run s)]
  simp [hstarts, hne '%' rfl, hne '-' rfl, hne '.' rfl, hne '[' rfl, hne ']' rfl, hne '\x7b' rfl,
    hne '\x7d' rfl, hne ',' rfl, hne '?' rfl, hne ':' rfl, hne '*' rfl, hne '&' rfl, hne '!' rfl,
    hne '|' rfl, hne '>' rfl, hne '\'' rfl, hne '"' rfl]

theorem token_sign {ch : Char} (h : s.cursor.rest = '-' :: ch :: rest) (hch : ch.isAlphanum = true) :
    token '-' s = plainScalar s := by
  have hdash : ch ≠ '-' := by
    rintro rfl
    exact absurd hch (by decide)
  have hat : s.cursor.atSeparator = false := by
    simp [Cursor.atSeparator, h, hdash]
  have hfollowing : s.cursor.peekAt 1 = some ch := by
    rw [Cursor.peekAt, h]
    rfl
  rw [token, bind_of_ok (get_run s)]
  simp [hat, hfollowing, endsWord_of_isAlphanum hch, startsPlain]

theorem token_word {word : List Char} (hword : IsWord word) {ch : Char} (hhead : word.head? = some ch)
    (h : s.cursor.rest = word ++ rest) : token ch s = plainScalar s := by
  obtain ⟨d, tail, rfl, hd | ⟨rfl, e, tail, rfl, he⟩⟩ := hword.head
  · obtain rfl := Option.some.inj hhead
    exact token_alphanum hd
  · obtain rfl := Option.some.inj hhead
    exact token_sign h he

theorem startsToken_word {word : List Char} (hword : IsWord word) {ch : Char}
    (hhead : word.head? = some ch) : startsToken ch = true := by
  obtain ⟨d, tail, rfl, hd | ⟨rfl, -⟩⟩ := hword.head
  · obtain rfl := Option.some.inj hhead
    have hhash : d ≠ '#' := by
      rintro rfl
      exact absurd hd (by decide)
    simp [startsToken, endsWord_of_isAlphanum hd, hhash]
  · obtain rfl := Option.some.inj hhead
    rfl

/-! ### Keys -/

/-- **Whether a key is read in YAML as it is written in JSON**: its text is, it is on one line, and its
colon is within reach. -/
def keepsKey (s : String) : Bool :=
  Scan.keepsText s && s.toList.all (!Scan.isSeparator ·) && (quote false s).length ≤ keyReach

theorem isBreak_quote {text : String} (htext : Scan.keepsText text = true)
    (hline : text.toList.all (!Scan.isSeparator ·) = true) :
    ∀ ch ∈ quote false text, isBreak ch = false := by
  rw [Scan.keepsText, Bool.and_eq_true, List.all_eq_true] at htext
  rw [List.all_eq_true] at hline
  intro ch hch
  rcases Scan.mem_quote hch with ⟨hmem, hlarge⟩ | hvisible
  · rw [Scan.isBreak_of_keepsChar (htext.1 ch hmem) hlarge]
    simpa using hline ch hmem
  · rw [Bool.eq_false_iff]
    intro hbreak
    rw [isBreak, Bool.or_eq_true, Bool.or_eq_true, Bool.or_eq_true, decide_eq_true_iff,
      decide_eq_true_iff, decide_eq_true_iff, decide_eq_true_iff] at hbreak
    rcases hbreak with ((rfl | rfl) | rfl) | rfl <;> exact absurd hvisible (by decide)

/-- A candidate on the line of a place and within reach of it is not stale. -/
theorem isStale_candidate {cs : List Char} (h : s.cursor.rest = cs ++ rest)
    (hcs : ∀ ch ∈ cs, isBreak ch = false) (hlength : cs.length ≤ keyReach) :
    isStale (s.cursor.skip cs.length) (candidate s) = false := by
  have hline : (s.cursor.skip cs.length).line = s.cursor.line :=
    s.cursor.skip_line (by rwa [h, List.take_left])
  have hindex : (s.cursor.skip cs.length).index = s.cursor.index + cs.length :=
    s.cursor.skip_index (by rw [h]; simp)
  simp [isStale, candidate, hline, hindex, hlength]

/-- **The colon behind a string that may be a key** fills the slot in front of the string. -/
theorem valueMark_run {k : Candidate} {t : Token} {candidates : List (ℕ × Candidate)}
    {pieces : List Piece}
    (h : Stands s (flow + 1) (':' :: rest) (ts ++ [t]))
    (hcandidates : s.candidates = (flow + 1, k) :: candidates)
    (hpieces : s.pieces = .token t :: .slot k.slot :: pieces) (hfresh : Piece.slot k.slot ∉ pieces)
    (hslot : s.filled.lookup k.slot = none) :
    ∃ s', valueMark s = .ok ((), s') ∧ Stands s' (flow + 1) rest (ts ++ [.key, t, .value]) := by
  have hshown := h.shown
  rw [hpieces, List.reverse_cons, List.reverse_cons, Piece.tokens_append,
    Piece.tokens_append] at hshown
  simp only [Piece.tokens, hslot, Option.getD_none, List.append_nil] at hshown
  have hts : Piece.tokens s.filled pieces.reverse = ts := List.append_cancel_right hshown
  have hfilled : Stands { s with
      candidates := s.candidates.filter fun e => e.1 != s.flow
      filled := (k.slot, [.key]) :: s.filled } (flow + 1) (':' :: rest) (ts ++ [.key, t]) := by
    refine ⟨h.flow, h.rest, h.outer, fun e he => h.optional e (List.mem_of_mem_filter he), h.slot_lt,
      ?_, ?_⟩
    · rintro e he
      rcases List.mem_cons.mp he with rfl | he
      · exact h.slot_lt _ (by simp [hpieces])
      · exact h.filled_lt e he
    · have hkept : Piece.tokens ((k.slot, [.key]) :: s.filled) pieces.reverse =
          Piece.tokens s.filled pieces.reverse :=
        Piece.tokens_cons_filled [.key] (mt List.mem_reverse.mp hfresh)
      dsimp only
      rw [hpieces, List.reverse_cons, List.reverse_cons, Piece.tokens_append, Piece.tokens_append,
        hkept, hts]
      simp [Piece.tokens]
  have hvalue := hfilled.found_mark (flow + 1) false .value
  rw [List.append_assoc] at hvalue
  refine ⟨_, ?_, hvalue⟩
  rw [valueMark, bind_of_ok (get_run s), hcandidates, List.find?_cons_of_pos (by simp [h.flow])]
  simp only [h.flow, Nat.succ_ne_zero, reduceIte]
  rfl

/-- **A key and its colon.** -/
theorem run_key {space : List Char} {text : String}
    (h : Stands s (flow + 1) (space ++ (quote false text ++ ':' :: rest)) ts)
    (hallowed : s.keyAllowed = true) (hspace : IsBlank space) (hkey : keepsKey text = true) :
    ∃ s', (∀ n, run (n + 2) s = run n s') ∧
      Stands s' (flow + 1) rest (ts ++ [.key, .scalar text false, .value]) := by
  rw [keepsKey, Bool.and_eq_true, Bool.and_eq_true, decide_eq_true_iff] at hkey
  obtain ⟨⟨htext, hline⟩, hreach⟩ := hkey
  have hquote : quote false text ++ ':' :: rest =
      '"' :: (text.toList.flatMap (Json.escapeChar false) ++ ['"'] ++ ':' :: rest) := rfl
  rw [hquote] at h
  have hrun := fun n => run_inBrackets (n + 1) h hspace (by decide)
  have h₁ := h.atToken
  generalize hs₁ : atToken s space.length = s₁ at hrun h₁
  have hallowed₁ : s₁.keyAllowed = true := by rw [← hs₁]; exact hallowed
  rw [← hquote] at h₁
  have hread := (token_quote s₁).trans (nodeToken_quote h₁ htext)
  have hnoted := Stands.noted h₁ (candidate_optional (by rw [h₁.flow]; exact Nat.succ_ne_zero _))
  have h₂ : Stands _ (flow + 1) ([] ++ ':' :: rest) _ :=
    Stands.found hnoted (flow + 1) false (.scalar text false)
  have hrun₂ := fun n => run_inBrackets n h₂ (.spaces 0) (by decide)
  have h₃ := h₂.atToken
  -- The string is still the candidate for a key when its colon is reached.
  have hnotedEq : noted s₁ = { s₁ with
      candidates := (s₁.flow, candidate s₁) :: s₁.candidates.filter fun e => e.1 != s₁.flow
      slots := s₁.slots + 1
      pieces := .slot s₁.slots :: s₁.pieces } := by rw [noted, if_pos hallowed₁]
  have hcandidates : (atToken (found (noted s₁) (flow + 1) false (quote false text).length
      (.scalar text false)) 0).candidates = (flow + 1, candidate s₁) ::
        (s₁.candidates.filter fun e => e.1 != s₁.flow).filter fun e =>
          !isStale (s₁.cursor.skip (quote false text).length) e.2 := by
    have hstale := isStale_candidate h₁.rest (isBreak_quote htext hline) hreach
    rw [hnotedEq]
    simp only [atToken, found, Cursor.skip]
    rw [List.filter_cons_of_pos (by rw [hstale]; rfl), h₁.flow]
  have hpieces : (atToken (found (noted s₁) (flow + 1) false (quote false text).length
      (.scalar text false)) 0).pieces =
        .token (.scalar text false) :: .slot s₁.slots :: s₁.pieces := by
    rw [hnotedEq]
    rfl
  obtain ⟨s', hvalue, h'⟩ := valueMark_run h₃ hcandidates hpieces
    (fun hmem => absurd (h₁.slot_lt _ hmem) (Nat.lt_irrefl _)) (by
      rw [hnotedEq, List.lookup_eq_none_iff]
      intro e he
      have : e.1 < s₁.slots := h₁.filled_lt e he
      simp [candidate]
      omega)
  refine ⟨s', fun n => ?_, h'⟩
  rw [hrun, bind_of_ok hread, hrun₂]
  exact bind_of_ok ((token_colon (by rw [h₃.flow]; exact Nat.succ_ne_zero _)).trans hvalue)

end Step

end WizardLogic.Yaml
