import Mathlib.Tactic.Common
import WideColumn.Statement

/-!
# Tokens of statement texts

A statement text as words, markers and signs, read without knowing how the text was made. A text
has as many markers as a prepared statement of this text takes values (`countP_isMarker_scan`).
Texts that end with a sign can be scanned one after the other (`Scans.append`).
-/

namespace WideColumn

/-- Whether a character can stand in a plain name. -/
def isNameChar (c : Char) : Bool := c.isAlphanum || c = '_'

/-- A letter or an underscore, then letters, digits and underscores. -/
def IsPlainName (name : String) : Prop :=
  name.toList.head?.any startsMarkerName = true ∧ ∀ c ∈ name.toList, isNameChar c = true

instance (name : String) : Decidable (IsPlainName name) :=
  decidable_of_iff
    (name.toList.head?.any startsMarkerName = true ∧ name.toList.all isNameChar = true)
    (by rw [IsPlainName, List.all_eq_true])

/-- A part of a statement text. -/
inductive Token where
  | word (name : String)
  /-- A marker with a name. -/
  | named (name : String)
  /-- A question mark. -/
  | positional
  /-- Any other character, a blank for instance. -/
  | sign (c : Char)
deriving Repr, DecidableEq

/-- Whether the token is a marker. -/
def Token.isMarker : Token → Bool
  | named _ | positional => true
  | word _ | sign _ => false

@[simp] theorem Token.isMarker_word (name : String) : (word name).isMarker = false := rfl
@[simp] theorem Token.isMarker_sign (c : Char) : (sign c).isMarker = false := rfl

/-- What a scan is in the middle of. -/
inductive Scanning where
  | nothing
  | word (letters : List Char)
  /-- What follows a colon. -/
  | marker (letters : List Char)
  /-- A quoted literal. -/
  | literal
deriving Repr, DecidableEq

namespace Scanning

/-- Whether the scan is inside a quoted literal. -/
def isLiteral (s : Scanning) : Bool := decide (s = .literal)

/-- One more letter. -/
def add : Scanning → Char → Scanning
  | word letters, c => word (letters ++ [c])
  | marker letters, c => marker (letters ++ [c])
  | nothing, c | literal, c => word [c]

/-- The tokens of what was scanned last. A colon before anything but a name is a sign. -/
def tokens : Scanning → List Token
  | nothing | literal => []
  | word letters => [.word (String.ofList letters)]
  | marker letters =>
    if letters.head?.any startsMarkerName then [.named (String.ofList letters)]
    else .sign ':' :: (if letters.isEmpty then [] else [.word (String.ofList letters)])

/-- What begins with a character that stands in no name. -/
def start (c : Char) : Scanning :=
  if c = '\'' then .literal else if c = ':' then .marker [] else .nothing

end Scanning

/-- The tokens of a character that stands in no name. -/
def Token.ofChar (c : Char) : List Token :=
  if c = '\'' ∨ c = ':' then [] else if c = '?' then [positional] else [sign c]

/-- The tokens of a text that is scanned from the given point. -/
def scanFrom : Scanning → List Char → List Token
  | s, [] => s.tokens
  | .literal, c :: rest => scanFrom (if c = '\'' then .nothing else .literal) rest
  | s, c :: rest =>
    if isNameChar c then scanFrom (s.add c) rest
    else s.tokens ++ (Token.ofChar c ++ scanFrom (.start c) rest)

/-- The tokens of a text. -/
def scan (text : String) : List Token := scanFrom .nothing text.toList

theorem scanFrom_of_isNameChar {s : Scanning} (hs : s.isLiteral = false) {c : Char}
    (hc : isNameChar c = true) (rest : List Char) :
    scanFrom s (c :: rest) = scanFrom (s.add c) rest := by
  cases s <;> simp_all [scanFrom, Scanning.isLiteral]

theorem scanFrom_of_not_isNameChar {s : Scanning} (hs : s.isLiteral = false) {c : Char}
    (hc : isNameChar c = false) (rest : List Char) :
    scanFrom s (c :: rest) = s.tokens ++ (Token.ofChar c ++ scanFrom (.start c) rest) := by
  cases s <;> simp_all [scanFrom, Scanning.isLiteral]

/-! ### The number of markers -/

theorem isNameChar_of_startsMarkerName {c : Char} (h : startsMarkerName c = true) :
    isNameChar c = true := by
  unfold startsMarkerName at h
  unfold isNameChar Char.isAlphanum
  rw [Bool.or_eq_true] at h
  rcases h with h | h <;> simp [h]

/-- The markers that the text makes of what was scanned last. -/
def Scanning.pending : Scanning → List Char → Nat
  | marker letters, rest => if (letters ++ rest).head?.any startsMarkerName then 1 else 0
  | _, _ => 0

theorem Scanning.countP_tokens (s : Scanning) : s.tokens.countP Token.isMarker = s.pending [] := by
  cases s with
  | marker letters =>
    simp only [tokens, pending, List.append_nil]
    split
    · rfl
    · cases letters <;> rfl
  | _ => rfl

theorem Scanning.pending_cons (s : Scanning) (hs : s.isLiteral = false) (c : Char)
    (rest : List Char) : s.pending (c :: rest) = (s.add c).pending rest := by
  cases s with
  | marker letters => simp [pending, add]
  | literal => cases hs
  | _ => rfl

theorem Scanning.pending_cons_of_not_isNameChar (s : Scanning) {c : Char}
    (hc : isNameChar c = false) (rest : List Char) : s.pending (c :: rest) = s.pending [] := by
  cases s with
  | marker letters =>
    cases letters with
    | nil =>
      have hstart : startsMarkerName c = false := by
        by_contra h
        rw [isNameChar_of_startsMarkerName (by simpa using h)] at hc
        cases hc
      simp [pending, hstart]
    | cons _ _ => rfl
  | _ => rfl

/-- A character outside names counts as its tokens do, with what begins with it. -/
theorem countMarkers_of_not_isNameChar {c : Char} (hc : isNameChar c = false) (rest : List Char) :
    countMarkers false (c :: rest) = (Token.ofChar c).countP Token.isMarker +
      ((Scanning.start c).pending rest + countMarkers (Scanning.start c).isLiteral rest) := by
  by_cases hquote : c = '\''
  · subst hquote
    simp [countMarkers, Token.ofChar, Scanning.start, Scanning.pending, Scanning.isLiteral]
  by_cases hcolon : c = ':'
  · subst hcolon
    simp only [countMarkers, Token.ofChar, Scanning.start, Scanning.pending, Scanning.isLiteral]
    by_cases hhead : rest.head?.any startsMarkerName = true <;> simp [hhead]
  by_cases hquestion : c = '?'
  · subst hquestion
    simp [countMarkers, Token.ofChar, Scanning.start, Scanning.pending, Scanning.isLiteral,
      Token.isMarker]
  · simp [countMarkers, Token.ofChar, Scanning.start, Scanning.pending, Scanning.isLiteral,
      Token.isMarker, hquote, hcolon, hquestion]

theorem countMarkers_of_isNameChar {c : Char} (hc : isNameChar c = true) (rest : List Char) :
    countMarkers false (c :: rest) = countMarkers false rest := by
  have hquote : c ≠ '\'' := by rintro rfl; exact absurd hc (by decide)
  have hquestion : c ≠ '?' := by rintro rfl; exact absurd hc (by decide)
  have hcolon : c ≠ ':' := by rintro rfl; exact absurd hc (by decide)
  simp [countMarkers, hquote, hquestion, hcolon]

theorem countP_isMarker_scanFrom (s : Scanning) (text : List Char) :
    (scanFrom s text).countP Token.isMarker =
      s.pending text + countMarkers s.isLiteral text := by
  induction text generalizing s with
  | nil => simp [scanFrom, countMarkers, s.countP_tokens]
  | cons c rest ih =>
    by_cases hs : s = .literal
    · subst hs
      have hpending : (if c = '\'' then Scanning.nothing else .literal).pending rest = 0 := by
        split <;> rfl
      rw [scanFrom, ih, hpending]
      by_cases hquote : c = '\'' <;>
        simp [countMarkers, hquote, Scanning.pending, Scanning.isLiteral]
    · have hliteral : s.isLiteral = false := by simpa [Scanning.isLiteral] using hs
      by_cases hc : isNameChar c = true
      · have hadd : (s.add c).isLiteral = false := by cases s <;> rfl
        rw [scanFrom_of_isNameChar hliteral hc, ih, s.pending_cons hliteral, hadd, hliteral,
          countMarkers_of_isNameChar hc]
      · have hc : isNameChar c = false := by simpa using hc
        rw [scanFrom_of_not_isNameChar hliteral hc, List.countP_append, List.countP_append, ih,
          s.countP_tokens, s.pending_cons_of_not_isNameChar hc, hliteral,
          countMarkers_of_not_isNameChar hc]

/-- The tokens of a text have as many markers as a prepared statement of this text takes values. -/
theorem countP_isMarker_scan (p : Prepared) :
    (scan p.query).countP Token.isMarker = p.markerCount := by
  unfold scan
  rw [countP_isMarker_scanFrom]
  simp [Scanning.pending, Scanning.isLiteral, Prepared.markerCount]

/-! ### One text after the other -/

/-- The text has these tokens, whatever follows it. -/
def Scans (text : String) (tokens : List Token) : Prop :=
  ∀ rest, scanFrom .nothing (text.toList ++ rest) = tokens ++ scanFrom .nothing rest

namespace Scans

variable {text text' : String} {tokens tokens' : List Token}

theorem scan_eq (h : Scans text tokens) : scan text = tokens := by
  have hend := h []
  rw [List.append_nil] at hend
  rw [scan, hend]
  exact List.append_nil _

theorem append (h : Scans text tokens) (h' : Scans text' tokens') :
    Scans (text ++ text') (tokens ++ tokens') := by
  intro rest
  rw [String.toList_append, List.append_assoc, h, h', List.append_assoc]

end Scans

/-- The text begins with a character that stands in no name. -/
def BeginsApart (text : String) : Prop :=
  text.toList.head?.any (fun c => !isNameChar c) = true

theorem BeginsApart.append {text : String} (h : BeginsApart text) (text' : String) :
    BeginsApart (text ++ text') := by
  unfold BeginsApart at h ⊢
  rw [String.toList_append]
  cases htext : text.toList with
  | nil => simp [htext] at h
  | cons c rest => simpa [htext] using h

/-- A scan in the middle of a name takes the letters that follow. -/
theorem scanFrom_letters {s : List Char → Scanning} {letters : List Char}
    (hs : ∀ before c, (s before).isLiteral = false ∧ (s before).add c = s (before ++ [c]))
    (hletters : ∀ c ∈ letters, isNameChar c = true) (before rest : List Char) :
    scanFrom (s before) (letters ++ rest) = scanFrom (s (before ++ letters)) rest := by
  induction letters generalizing before with
  | nil => simp
  | cons c letters ih =>
    obtain ⟨hc, hletters⟩ := List.forall_mem_cons.1 hletters
    rw [List.cons_append, scanFrom_of_isNameChar (hs before c).1 hc, (hs before c).2, ih hletters,
      List.append_assoc]
    rfl

/-- What was scanned last ends where a text begins apart. -/
theorem scanFrom_of_beginsApart {s : Scanning} (hs : s.isLiteral = false) {text : String}
    (h : BeginsApart text) (rest : List Char) :
    scanFrom s (text.toList ++ rest) = s.tokens ++ scanFrom .nothing (text.toList ++ rest) := by
  unfold BeginsApart at h
  cases htext : text.toList with
  | nil => simp [htext] at h
  | cons c after =>
    have hc : isNameChar c = false := by simpa [htext] using h
    rw [List.cons_append, scanFrom_of_not_isNameChar hs hc, scanFrom_of_not_isNameChar rfl hc]
    rfl

/-- The text has these tokens, whatever begins apart after it. -/
structure ScansBefore (text : String) (tokens : List Token) : Prop where
  followed {after : String} {tokens' : List Token} : BeginsApart after → Scans after tokens' →
    Scans (text ++ after) (tokens ++ tokens')

namespace ScansBefore

variable {name : String}

/-- Letters and digits are a word. -/
theorem letters (hne : name ≠ "") (hletters : ∀ c ∈ name.toList, isNameChar c = true) :
    ScansBefore name [.word name] := by
  refine ⟨fun {after tokens'} hapart h rest => ?_⟩
  cases hchars : name.toList with
  | nil => exact absurd (String.toList_eq_nil_iff.1 hchars) hne
  | cons c letters =>
    rw [hchars] at hletters
    obtain ⟨hc, hletters⟩ := List.forall_mem_cons.1 hletters
    have hscan := scanFrom_letters (s := .word) (fun _ _ => ⟨rfl, rfl⟩) hletters [c]
      (after.toList ++ rest)
    have hword : Scanning.tokens (.word (c :: letters)) = [.word name] := by
      rw [← hchars, Scanning.tokens, String.ofList_toList]
    rw [String.toList_append, List.append_assoc, hchars, List.cons_append,
      scanFrom_of_isNameChar rfl hc]
    rw [show Scanning.nothing.add c = .word [c] from rfl, hscan, List.singleton_append,
      scanFrom_of_beginsApart rfl hapart, hword, h]
    rfl

/-- A name is a word. -/
theorem word (hname : IsPlainName name) : ScansBefore name [.word name] := by
  refine letters ?_ hname.2
  rintro rfl
  exact absurd hname.1 (by decide)

/-- A name after a colon is a marker. -/
theorem named (hname : IsPlainName name) : ScansBefore (":" ++ name) [.named name] := by
  refine ⟨fun {after tokens'} hapart h rest => ?_⟩
  obtain ⟨hstart, hletters⟩ := hname
  have hscan := scanFrom_letters (s := .marker) (fun _ _ => ⟨rfl, rfl⟩) hletters []
    (after.toList ++ rest)
  have hmarker : Scanning.tokens (.marker name.toList) = [.named name] := by
    rw [Scanning.tokens, if_pos hstart, String.ofList_toList]
  have hcolon : scanFrom .nothing (':' :: (name.toList ++ (after.toList ++ rest))) =
      scanFrom (.marker []) (name.toList ++ (after.toList ++ rest)) := rfl
  rw [String.toList_append, String.toList_append, List.append_assoc, List.append_assoc]
  rw [show ":".toList = [':'] from rfl, List.singleton_append, hcolon, hscan, List.nil_append,
    scanFrom_of_beginsApart rfl hapart, hmarker, h]
  rfl

variable {text text' : String} {tokens tokens' : List Token}

/-- A text before one that begins apart. -/
theorem append (h : ScansBefore text tokens) (hapart : BeginsApart text')
    (h' : ScansBefore text' tokens') : ScansBefore (text ++ text') (tokens ++ tokens') := by
  refine ⟨fun hafter hscans => ?_⟩
  rw [String.append_assoc, List.append_assoc]
  exact h.followed (hapart.append _) (h'.followed hafter hscans)

/-- A text with the same tokens whatever follows, before any other. -/
theorem prepend (h : Scans text tokens) (h' : ScansBefore text' tokens') :
    ScansBefore (text ++ text') (tokens ++ tokens') := by
  refine ⟨fun hafter hscans => ?_⟩
  rw [String.append_assoc, List.append_assoc]
  exact h.append (h'.followed hafter hscans)

/-- The items of a list with separators between them. -/
theorem intercalate {α : Type} {separator : String} (hseparator : Scans separator tokens)
    (hapart : BeginsApart separator) {item : α → String} {itemTokens : α → List Token}
    {items : List α}
    (hitem : ∀ a ∈ items, ScansBefore (item a) (itemTokens a)) :
    ScansBefore (separator.intercalate (items.map item))
      (tokens.intercalate (items.map itemTokens)) := by
  induction items with
  | nil => exact ⟨fun _ h => by simpa using h⟩
  | cons a rest ih =>
    obtain ⟨ha, hrest⟩ := List.forall_mem_cons.1 hitem
    cases rest with
    | nil => simpa using ha
    | cons b rest =>
      rw [List.map_cons, List.map_cons, List.map_cons, List.map_cons,
        String.intercalate_cons_cons, List.intercalate_cons_cons]
      rw [String.append_assoc, List.append_assoc]
      exact ha.append (hapart.append _) (.prepend hseparator (ih hrest))

end ScansBefore

end WideColumn
