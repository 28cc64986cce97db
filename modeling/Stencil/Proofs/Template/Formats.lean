import Mathlib
import Stencil.Proofs.Template.Verbs
import Stencil.Template.Function

/-!
# What formats print

A format consists of characters, of percent signs that are written as verbs, and of verbs that take an argument each.
It is printed exactly if its verbs and its arguments can be paired and every argument can be laid out under its verb.
A percent sign that begins no verb keeps a format from being printed, because a directive of the second pass begins
there, and there are no more values than verbs.
-/

namespace Stencil.Template

/-! ## The pieces of a format -/

/-- A piece of a format. -/
inductive FormatPiece
  /-- A character that is part of no verb. -/
  | character (c : Char)
  /-- A percent sign that is written as a verb. -/
  | percent (flags : List Char)
  /-- A verb that takes an argument. -/
  | verb (flags : List Char) (letter : Char)
deriving DecidableEq, Repr

namespace FormatPiece

/-- A piece as it stands in the format. -/
def written : FormatPiece → List Char
  | character c => [c]
  | percent flags => '%' :: flags ++ ['%']
  | verb flags letter => '%' :: flags ++ [letter]

/-- The flags and the letter of a verb. -/
def verb? : FormatPiece → Option (List Char × Char)
  | verb flags letter => some (flags, letter)
  | _ => none

/-- The piece that is read behind a percent sign with some flags and a letter. -/
def ofVerb (flags : List Char) (letter : Char) : FormatPiece :=
  if letter = '%' then percent flags else verb flags letter

end FormatPiece

/-- The pieces of a format, from left to right; each is at least one character long. -/
def piecesFrom : (fuel : Nat) → (format : List Char) → List FormatPiece
  | 0, _ => []
  | _ + 1, [] => []
  | fuel + 1, c :: rest =>
    match if c = '%' then readVerb? rest else none with
    | none => .character c :: piecesFrom fuel rest
    | some (flags, letter, rest) => .ofVerb flags letter :: piecesFrom fuel rest

/-- The pieces of a format. -/
def formatPieces (format : List Char) : List FormatPiece :=
  piecesFrom (format.length + 1) format

/-- The verbs among pieces. -/
def verbsOf (pieces : List FormatPiece) : List (List Char × Char) :=
  pieces.filterMap FormatPiece.verb?

theorem written_ofVerb (flags : List Char) (letter : Char) :
    (FormatPiece.ofVerb flags letter).written = '%' :: flags ++ [letter] := by
  rw [FormatPiece.ofVerb]
  split_ifs with percent
  · rw [percent]
    rfl
  · rfl

/-- The pieces of a format are all that stands in it. -/
theorem flatMap_written_piecesFrom {fuel : Nat} {format : List Char} (enough : format.length < fuel) :
    (piecesFrom fuel format).flatMap FormatPiece.written = format := by
  induction fuel generalizing format with
  | zero => exact absurd enough (Nat.not_lt_zero _)
  | succ fuel induction =>
      cases format with
      | nil => rfl
      | cons c rest =>
          have fueled : rest.length < fuel := Nat.lt_of_succ_lt_succ enough
          rw [piecesFrom]
          split
          · rw [List.flatMap_cons, induction fueled]
            rfl
          · rename_i flags letter behind read
            split_ifs at read with percent
            obtain ⟨front, -, rfl, rfl⟩ := readVerb?_eq_some read
            have shorter : behind.length < fuel := by
              rw [List.length_append, List.length_cons] at fueled
              omega
            rw [List.flatMap_cons, induction shorter, written_ofVerb, percent]
            simp

/-- What stands between the percent sign and the letter of a verb is regular. -/
theorem exists_front_of_mem {fuel : Nat} {format flags : List Char} {letter : Char}
    (known : .verb flags letter ∈ piecesFrom fuel format) : ∃ front : VerbFront, front.IsRegular ∧ flags = front.text := by
  induction fuel generalizing format with
  | zero => cases known
  | succ fuel induction =>
      cases format with
      | nil => cases known
      | cons c rest =>
          rw [piecesFrom] at known
          split at known
          · rcases List.mem_cons.mp known with same | known
            · cases same
            · exact induction known
          · rename_i flags' letter' behind read
            rcases List.mem_cons.mp known with same | known
            · split_ifs at read
              obtain ⟨front, isRegular, written, -⟩ := readVerb?_eq_some read
              rw [FormatPiece.ofVerb] at same
              split_ifs at same
              cases same
              exact ⟨front, isRegular, written⟩
            · exact induction known

/-- The first pass over pieces. -/
def takePieces : List FormatPiece → List Value → Except FormatFault (List Char × List Value × List Value)
  | [], args => .ok ([], [], args)
  | .character c :: pieces, args => do
    let (laid, values, left) ← takePieces pieces args
    .ok (c :: laid, values, left)
  | .percent _ :: pieces, args => do
    let (laid, values, left) ← takePieces pieces args
    .ok ('%' :: '%' :: laid, values, left)
  | .verb flags letter :: _, [] => .error (.missing flags letter)
  | .verb flags letter :: pieces, v :: args => do
    let (letter, value) ← convert letter v
    let (laid, values, left) ← takePieces pieces args
    .ok ('%' :: flags ++ letter :: laid, value :: values, left)

/-- A verb takes the next argument and converts it. -/
theorem takePieces_verb_eq_ok {flags laid : List Char} {verb : Char} {pieces : List FormatPiece}
    {args values left : List Value} (taken : takePieces (.verb flags verb :: pieces) args = .ok (laid, values, left)) :
    ∃ v args' letter value laid' values', args = v :: args' ∧ convert verb v = .ok (letter, value) ∧
      takePieces pieces args' = .ok (laid', values', left) ∧ laid = '%' :: flags ++ letter :: laid' ∧
        values = value :: values' := by
  cases args with
  | nil => cases taken
  | cons v args =>
      obtain ⟨⟨letter, value⟩, converted, taken⟩ := bind_eq_ok_iff.mp taken
      obtain ⟨⟨laid', values', left'⟩, later, same⟩ := bind_eq_ok_iff.mp taken
      cases same
      exact ⟨v, args, letter, value, laid', values', rfl, converted, later, rfl, rfl⟩

/-- The first pass is one over the pieces of the format. -/
theorem takeVerbs_eq (fuel : Nat) (format : List Char) (args : List Value) :
    takeVerbs fuel format args = takePieces (piecesFrom fuel format) args := by
  induction fuel generalizing format args with
  | zero => rfl
  | succ fuel induction =>
      cases format with
      | nil => rfl
      | cons c rest =>
          rw [takeVerbs, piecesFrom]
          cases if c = '%' then readVerb? rest else none with
          | none =>
              simp only [takePieces, induction]
          | some read =>
              obtain ⟨flags, letter, behind⟩ := read
              simp only [FormatPiece.ofVerb]
              split_ifs
              · simp only [takePieces, induction]
              · cases args <;> simp only [takePieces, induction]

/-! ## What verbs print -/

/-- A text laid out, of which no more is shown than the precision says. -/
def Directive.placeCut (d : Directive) (s : List Char) : List Char :=
  d.placeText (s.take (d.precision.getD s.length))

/-- What a verb prints for an argument: its form, its quoted form or its binary digits as a text, or what the directive
of the same letter lays out. -/
inductive Lays (d : Directive) : Char → Value → List Char → Prop
  /-- The form of the argument is shown. -/
  | form {letter : Char} {v : Value} (shows : letter = 'v' ∨ letter = 's' ∨ letter = 't') :
    Lays d letter v (d.placeCut v.operandText)
  /-- The form of the argument is quoted. -/
  | quoted {v : Value} : Lays d 'q' v (d.placeCut (Data.Json.quoted v.operandText))
  /-- The argument is a whole number, of which the binary digits are shown. -/
  | binary {v : Value} {n : Int} (whole : v.toInt? = some n) : Lays d 'b' v (d.placeCut (baseText 2 n))
  /-- The argument is laid out as a number or a character. -/
  | number {letter : Char} {v : Value} {out : List Char} (lays : letter ∈ "dxXocfFeEgG".toList)
    (placed : d.place letter 0 v = .ok out) : Lays d letter v out

theorem place_s (d : Directive) (s : List Char) : d.place 's' 0 (.text s) = .ok (d.placeCut s) := by
  simp [Directive.place, Directive.placeCut, Value.toData, Data.Value.display]

/-- What a verb makes of an argument: a text, or the argument itself under the same letter. -/
theorem cases_convert {verb letter : Char} {v value : Value} (converted : convert verb v = .ok (letter, value)) :
    (∃ s, letter = 's' ∧ value = .text s ∧
        ((verb = 'v' ∨ verb = 's' ∨ verb = 't') ∧ s = v.operandText ∨
          verb = 'q' ∧ s = Data.Json.quoted v.operandText ∨
          verb = 'b' ∧ ∃ n, v.toInt? = some n ∧ s = baseText 2 n)) ∨
      verb ∈ "dxXocfFeEgG".toList ∧ letter = verb ∧ value = v := by
  rw [convert] at converted
  split_ifs at converted with shows quotes counts lays
  · cases converted
    exact .inl ⟨_, rfl, rfl, .inl ⟨shows, rfl⟩⟩
  · cases converted
    exact .inl ⟨_, rfl, rfl, .inr (.inl ⟨quotes, rfl⟩)⟩
  · cases whole : v.toInt? with
    | none =>
        rw [whole] at converted
        cases converted
    | some n =>
        rw [whole] at converted
        cases converted
        exact .inl ⟨_, rfl, rfl, .inr (.inr ⟨counts, n, rfl, rfl⟩)⟩
  · cases converted
    exact .inr ⟨lays, rfl, rfl⟩

theorem mem_layoutLetters_of_convert {verb letter : Char} {v value : Value}
    (converted : convert verb v = .ok (letter, value)) : letter ∈ layoutLetters := by
  rcases cases_convert converted with ⟨s, rfl, -⟩ | ⟨lays, rfl, -⟩
  · exact List.mem_cons_self
  · exact List.mem_cons_of_mem _ (by simpa using lays)

/-- A verb prints what its conversion comes to when it is laid out. -/
theorem lays_iff {d : Directive} {verb : Char} {v : Value} {out : List Char} :
    Lays d verb v out ↔ ∃ letter value, convert verb v = .ok (letter, value) ∧ d.place letter 0 value = .ok out := by
  constructor
  · intro lays
    cases lays with
    | form shows => exact ⟨'s', _, if_pos shows, place_s d _⟩
    | quoted => exact ⟨'s', _, by simp [convert], place_s d _⟩
    | binary whole => exact ⟨'s', _, by simp [convert, whole], place_s d _⟩
    | number lays placed =>
        have apart : ∀ c ∈ "dxXocfFeEgG".toList, ¬(c = 'v' ∨ c = 's' ∨ c = 't') ∧ c ≠ 'q' ∧ c ≠ 'b' := by simp
        obtain ⟨noForm, noQuote, noCount⟩ := apart verb lays
        exact ⟨verb, v, by rw [convert, if_neg noForm, if_neg noQuote, if_neg noCount, if_pos lays], placed⟩
  · rintro ⟨letter, value, converted, placed⟩
    rcases cases_convert converted with ⟨s, rfl, rfl, form⟩ | ⟨lays, rfl, rfl⟩
    · rw [place_s] at placed
      obtain rfl := Except.ok.inj placed
      rcases form with ⟨shows, rfl⟩ | ⟨rfl, rfl⟩ | ⟨rfl, n, whole, rfl⟩
      · exact .form shows
      · exact .quoted
      · exact .binary whole
    · exact .number lays placed

/-! ## The second pass -/

section LayOut

variable {size fuel : Nat} {s out : List Char} {values : List Value}

theorem layOut_percent (size fuel : Nat) (s : List Char) (values : List Value) :
    layOut size (fuel + 1) ('%' :: '%' :: s) values = (layOut size fuel s values).map ('%' :: ·) := by
  rw [layOut, if_neg (by simp)]

theorem layOut_nil_eq_ok_iff : layOut size (fuel + 1) [] values = .ok out ↔ values = [] ∧ out = [] := by
  rw [layOut]
  cases values <;> simp [eq_comm]

theorem layOut_directive_eq_ok_iff (apart : s.head? ≠ some '%') :
    layOut size (fuel + 1) ('%' :: s) values = .ok out ↔
      ∃ letter r v behind text later, readDirective s values = .ok (letter, r) ∧ r.values = v :: behind ∧
        r.directive.place letter 0 v = .ok text ∧ layOut size fuel r.rest behind = .ok later ∧ out = text ++ later := by
  rw [layOut, if_neg (by simp)]
  case x_4 =>
    rintro rest rfl
    exact apart rfl
  constructor
  · intro laid
    obtain ⟨⟨letter, r⟩, read, laid⟩ := bind_eq_ok_iff.mp laid
    simp only at laid
    split at laid
    · cases laid
    · rename_i v behind next
      obtain ⟨text, placed, laid⟩ := bind_eq_ok_iff.mp laid
      obtain ⟨later, laidOut, rfl⟩ := map_eq_ok_iff.mp laid
      exact ⟨letter, r, v, behind, text, later, read, next, place_index placed 0, laidOut, rfl⟩
  · rintro ⟨letter, r, v, behind, text, later, read, next, placed, laid, rfl⟩
    refine bind_eq_ok_iff.mpr ⟨(letter, r), read, ?_⟩
    simp only [next]
    exact bind_eq_ok_iff.mpr ⟨text, place_index placed _, map_eq_ok_iff.mpr ⟨later, laid, rfl⟩⟩

end LayOut

/-- How many percent signs of a text begin a directive. -/
def openPercents : List Char → Nat
  | [] => 0
  | '%' :: '%' :: rest => openPercents rest
  | '%' :: rest => openPercents rest + 1
  | _ :: rest => openPercents rest

theorem openPercents_character {c : Char} (other : c ≠ '%') (s : List Char) :
    openPercents (c :: s) = openPercents s := by
  rw [openPercents]
  · rintro rest rfl
    exact absurd rfl other
  · exact other

theorem openPercents_directive {s : List Char} (apart : s.head? ≠ some '%') :
    openPercents ('%' :: s) = openPercents s + 1 := by
  rw [openPercents]
  rintro rest rfl
  exact apart rfl

theorem Passes.openPercents_eq {s rest : List Char} (passes : Passes s rest) : openPercents s = openPercents rest := by
  obtain ⟨front, rfl, free⟩ := passes
  induction front with
  | nil => rfl
  | cons c front induction =>
      rw [List.mem_cons, not_or] at free
      rw [List.cons_append, openPercents_character (Ne.symm free.1), induction free.2]

/-- Every directive that is laid out takes a value. -/
theorem openPercents_le_of_layOut {size fuel : Nat} {s out : List Char} {values : List Value} (enough : s.length < fuel)
    (laid : layOut size fuel s values = .ok out) : openPercents s ≤ values.length := by
  induction fuel generalizing s values out with
  | zero => exact absurd enough (Nat.not_lt_zero _)
  | succ fuel induction =>
      cases s with
      | nil => exact Nat.zero_le _
      | cons c s =>
          have fueled : s.length < fuel := Nat.lt_of_succ_lt_succ enough
          by_cases percent : c = '%'
          case neg =>
            rw [layOut_character percent] at laid
            obtain ⟨later, laid, -⟩ := map_eq_ok_iff.mp laid
            rw [openPercents_character percent]
            exact induction fueled laid
          case pos =>
          subst percent
          by_cases pair : s.head? = some '%'
          case pos =>
            obtain ⟨rest, rfl⟩ := List.head?_eq_some_iff.mp pair
            rw [layOut_percent] at laid
            obtain ⟨later, laid, -⟩ := map_eq_ok_iff.mp laid
            rw [openPercents]
            exact induction (Nat.lt_of_succ_lt fueled) laid
          case neg =>
            obtain ⟨letter, r, v, behind, text, later, read, next, placed, laid, -⟩ :=
              (layOut_directive_eq_ok_iff pair).mp laid
            obtain ⟨passes, fewer⟩ := readDirective_passes read
            have shorter := readDirective_length_lt read
            have noPercent : letter ≠ '%' := by
              rintro rfl
              rw [place_percent] at placed
              cases placed
            have taken := fewer.length_le
            rw [next, List.length_cons] at taken
            have later := induction (by omega) laid
            rw [openPercents_directive pair, passes.openPercents_eq, openPercents_character noPercent]
            omega

/-! ## Percent signs that begin no verb -/

/-- A percent sign that begins no verb. -/
def loosePercent : FormatPiece :=
  .character '%'

theorem readVerb?_percent (s : List Char) : readVerb? ('%' :: s) = some ([], '%', s) := by
  have noFlag : isFlag '%' = false := by decide
  have noDigit : Text.isDecimalDigit '%' = false := by decide
  simp [readVerb?, readPoint, noFlag, noDigit]

/-- What follows a percent sign that begins no verb is no percent sign. -/
def KeepsApart (piece next : FormatPiece) : Prop :=
  piece = loosePercent → ∃ c, c ≠ '%' ∧ next = .character c

theorem isChain_piecesFrom (fuel : Nat) (format : List Char) : (piecesFrom fuel format).IsChain KeepsApart := by
  induction fuel generalizing format with
  | zero => exact .nil
  | succ fuel induction =>
      cases format with
      | nil => exact .nil
      | cons c rest =>
          rw [piecesFrom]
          split
          · rename_i unread
            refine List.isChain_cons.mpr ⟨fun next first loose => ?_, induction rest⟩
            cases loose
            rw [if_pos rfl] at unread
            cases fuel with
            | zero => cases first
            | succ fuel =>
                cases rest with
                | nil => cases first
                | cons d rest =>
                    have other : d ≠ '%' := by
                      rintro rfl
                      rw [readVerb?_percent] at unread
                      cases unread
                    rw [piecesFrom, if_neg other] at first
                    cases first
                    exact ⟨d, other, rfl⟩
          · rename_i flags letter behind read
            refine List.isChain_cons.mpr ⟨fun next first loose => ?_, induction behind⟩
            rw [FormatPiece.ofVerb, loosePercent] at loose
            split_ifs at loose

/-- The fronts of all verbs are regular. -/
def HasFronts (pieces : List FormatPiece) : Prop :=
  ∀ flags letter, .verb flags letter ∈ pieces → ∃ front : VerbFront, front.IsRegular ∧ flags = front.text

theorem HasFronts.tail {piece : FormatPiece} {pieces : List FormatPiece} (fronts : HasFronts (piece :: pieces)) :
    HasFronts pieces :=
  fun flags letter known => fronts flags letter (List.mem_cons_of_mem _ known)

/-- A directive that is written for a verb begins at its percent sign only. -/
theorem passes_front {front : VerbFront} (isRegular : front.IsRegular) {letter : Char} (known : letter ∈ layoutLetters)
    (laid : List Char) :
    (front.text ++ letter :: laid).head? ≠ some '%' ∧ Passes (front.text ++ letter :: laid) laid := by
  have noPercent : letter ≠ '%' := by
    rintro rfl
    exact (layoutLetters_facts _ known).2.2.2 (by decide)
  have free := notMem_text isRegular (c := '%') (by decide) (by decide) (by decide)
  refine ⟨?_, front.text ++ [letter], by simp, by simp [free, Ne.symm noPercent]⟩
  cases written : front.text with
  | nil => simpa using noPercent
  | cons c more =>
      rw [written, List.mem_cons, not_or] at free
      simpa using Ne.symm free.1

/-- The directives of the second pass are the verbs, and the percent signs that begin none. -/
theorem openPercents_of_takePieces {pieces : List FormatPiece} {args values left : List Value} {laid : List Char}
    (fronts : HasFronts pieces) (apart : pieces.IsChain KeepsApart)
    (taken : takePieces pieces args = .ok (laid, values, left)) :
    openPercents laid = values.length + pieces.count loosePercent := by
  induction pieces generalizing args laid values left with
  | nil =>
      cases taken
      rfl
  | cons piece pieces induction =>
      obtain ⟨next, chain⟩ := List.isChain_cons.mp apart
      cases piece with
      | character c =>
          obtain ⟨⟨laid, values, left⟩, later, same⟩ := bind_eq_ok_iff.mp taken
          cases same
          have counted := induction fronts.tail chain later
          by_cases percent : c = '%'
          · subst percent
            have noPair : laid.head? ≠ some '%' := by
              cases pieces with
              | nil =>
                  cases later
                  nofun
              | cons piece pieces =>
                  obtain ⟨d, other, rfl⟩ := next piece rfl rfl
                  obtain ⟨⟨laid', values', left'⟩, -, same⟩ := bind_eq_ok_iff.mp later
                  cases same
                  simpa using other
            rw [openPercents_directive noPair, counted, List.count_cons, if_pos (by decide)]
            omega
          · have solid : (FormatPiece.character c == loosePercent) = false := by
              simpa [loosePercent] using percent
            rw [openPercents_character percent, counted, List.count_cons, solid]
            rfl
      | percent flags =>
          obtain ⟨⟨laid, values, left⟩, later, same⟩ := bind_eq_ok_iff.mp taken
          cases same
          rw [openPercents, induction fronts.tail chain later]
          rfl
      | verb flags verb =>
          obtain ⟨v, args, letter, value, laid, values, rfl, converted, later, rfl, rfl⟩ := takePieces_verb_eq_ok taken
          obtain ⟨front, isRegular, rfl⟩ := fronts flags verb List.mem_cons_self
          obtain ⟨noPair, passes⟩ := passes_front isRegular (mem_layoutLetters_of_convert converted) laid
          have counted := induction fronts.tail chain later
          rw [List.cons_append, openPercents_directive noPair, passes.openPercents_eq, counted, List.length_cons,
            List.count_cons]
          simp [loosePercent]
          omega

/-! ## Printing -/

/-- Pieces and arguments print a text: characters as they are, percent signs that are written as verbs as one sign, and
every verb with the next argument. -/
inductive PrintsAll : List FormatPiece → List Value → List Char → Prop
  /-- Nothing is left. -/
  | nil : PrintsAll [] [] []
  /-- A character is printed as it is. -/
  | character {c : Char} {pieces : List FormatPiece} {args : List Value} {out : List Char} (other : c ≠ '%')
    (later : PrintsAll pieces args out) : PrintsAll (.character c :: pieces) args (c :: out)
  /-- A percent sign is printed. -/
  | percent {flags : List Char} {pieces : List FormatPiece} {args : List Value} {out : List Char}
    (later : PrintsAll pieces args out) : PrintsAll (.percent flags :: pieces) args ('%' :: out)
  /-- An argument is printed under its verb. -/
  | verb {flags : List Char} {letter : Char} {d : Directive} {v : Value} {text : List Char}
    {pieces : List FormatPiece} {args : List Value} {out : List Char} (asked : AsksFor flags d)
    (lays : Lays d letter v text) (later : PrintsAll pieces args out) :
    PrintsAll (.verb flags letter :: pieces) (v :: args) (text ++ out)

namespace PrintsAll

variable {pieces : List FormatPiece} {args : List Value} {out : List Char}

/-- Every verb prints one argument. -/
theorem length_eq (prints : PrintsAll pieces args out) : args.length = (verbsOf pieces).length := by
  induction prints with
  | nil => rfl
  | character other later induction => exact induction
  | percent later induction => exact induction
  | verb asked lays later induction => exact congrArg (· + 1) induction

/-- What pieces print is what the two passes make of them. -/
theorem laidOut (prints : PrintsAll pieces args out) :
    ∃ laid values, takePieces pieces args = .ok (laid, values, []) ∧
      ∀ size fuel, laid.length < fuel → layOut size fuel laid values = .ok out := by
  induction prints with
  | nil =>
      refine ⟨[], [], rfl, fun size fuel enough => ?_⟩
      obtain ⟨fuel, rfl⟩ := Nat.exists_eq_succ_of_ne_zero (Nat.ne_of_gt enough)
      rfl
  | @character c _ _ _ other later induction =>
      obtain ⟨laid, values, taken, laidOut⟩ := induction
      refine ⟨c :: laid, values, by rw [takePieces, taken]; rfl, fun size fuel enough => ?_⟩
      obtain ⟨fuel, rfl⟩ := Nat.exists_eq_succ_of_ne_zero (Nat.ne_zero_of_lt enough)
      rw [layOut_character other, laidOut size fuel (Nat.lt_of_succ_lt_succ enough)]
      rfl
  | percent later induction =>
      obtain ⟨laid, values, taken, laidOut⟩ := induction
      refine ⟨'%' :: '%' :: laid, values, by rw [takePieces, taken]; rfl, fun size fuel enough => ?_⟩
      obtain ⟨fuel, rfl⟩ := Nat.exists_eq_succ_of_ne_zero (Nat.ne_zero_of_lt enough)
      rw [layOut_percent, laidOut size fuel (Nat.lt_of_succ_lt (Nat.lt_of_succ_lt_succ enough))]
      rfl
  | @verb flags letter d v text _ _ _ asked lays later induction =>
      obtain ⟨laid, values, taken, laidOut⟩ := induction
      obtain ⟨front, isRegular, isReadable, rfl, rfl⟩ := asked
      obtain ⟨letter, value, converted, placed⟩ := lays_iff.mp lays
      have known := mem_layoutLetters_of_convert converted
      obtain ⟨noPair, passes⟩ := passes_front isRegular known laid
      refine ⟨'%' :: front.text ++ letter :: laid, value :: values, by rw [takePieces, converted, ok_bind, taken]; rfl,
        fun size fuel enough => ?_⟩
      obtain ⟨fuel, rfl⟩ := Nat.exists_eq_succ_of_ne_zero (Nat.ne_zero_of_lt enough)
      have shorter := passes.length_le
      rw [List.cons_append, List.length_cons] at enough
      exact (layOut_directive_eq_ok_iff noPair).mpr ⟨letter, _, value, values, _, _,
        readDirective_text isRegular isReadable known, rfl, placed, laidOut size fuel (by omega), rfl⟩

end PrintsAll

/-- Without percent signs that begin no verb, what the two passes make of pieces is what they print. -/
theorem prints_of_layOut {size fuel : Nat} {pieces : List FormatPiece} {args values : List Value} {laid out : List Char}
    (fronts : HasFronts pieces) (tight : loosePercent ∉ pieces) (enough : laid.length < fuel)
    (taken : takePieces pieces args = .ok (laid, values, [])) (laidOut : layOut size fuel laid values = .ok out) :
    PrintsAll pieces args out := by
  induction pieces generalizing args values laid out fuel with
  | nil =>
      cases taken
      obtain ⟨fuel, rfl⟩ := Nat.exists_eq_succ_of_ne_zero (Nat.ne_zero_of_lt enough)
      obtain ⟨-, rfl⟩ := layOut_nil_eq_ok_iff.mp laidOut
      exact .nil
  | cons piece pieces induction =>
      obtain ⟨solid, others⟩ := not_or.mp (List.mem_cons.not.mp tight)
      obtain ⟨fuel, rfl⟩ := Nat.exists_eq_succ_of_ne_zero (Nat.ne_zero_of_lt enough)
      cases piece with
      | character c =>
          obtain ⟨⟨laid, values, left⟩, later, same⟩ := bind_eq_ok_iff.mp taken
          cases same
          have other : c ≠ '%' := by
            rintro rfl
            exact solid rfl
          rw [layOut_character other] at laidOut
          obtain ⟨out, behind, rfl⟩ := map_eq_ok_iff.mp laidOut
          exact .character other (induction fronts.tail others (Nat.lt_of_succ_lt_succ enough) later behind)
      | percent flags =>
          obtain ⟨⟨laid, values, left⟩, later, same⟩ := bind_eq_ok_iff.mp taken
          cases same
          rw [layOut_percent] at laidOut
          obtain ⟨out, behind, rfl⟩ := map_eq_ok_iff.mp laidOut
          have shorter := Nat.lt_of_succ_lt (Nat.lt_of_succ_lt_succ enough)
          exact .percent (induction fronts.tail others shorter later behind)
      | verb flags verb =>
          obtain ⟨v, args, letter, value, laid, values, rfl, converted, later, rfl, rfl⟩ := takePieces_verb_eq_ok taken
          obtain ⟨front, isRegular, rfl⟩ := fronts flags verb List.mem_cons_self
          have known := mem_layoutLetters_of_convert converted
          obtain ⟨noPair, passes⟩ := passes_front isRegular known laid
          have shorter := passes.length_le
          rw [List.cons_append, List.length_cons] at enough
          obtain ⟨l, r, value', behind, text, out, read, next, placed, laidOut, rfl⟩ :=
            (layOut_directive_eq_ok_iff noPair).mp laidOut
          have isReadable := isReadable_of_placed isRegular known read placed
          rw [readDirective_text isRegular isReadable known] at read
          cases read
          cases next
          exact .verb ⟨front, isRegular, isReadable, rfl, rfl⟩ (lays_iff.mpr ⟨_, _, converted, placed⟩)
            (induction fronts.tail others (by omega) later laidOut)

/-- A format is printed exactly if its pieces are. -/
theorem formatted_eq_ok_iff {format out : List Char} {args : List Value} :
    formatted format args = .ok out ↔ PrintsAll (formatPieces format) args out := by
  rw [formatted, takeVerbs_eq, ← formatPieces]
  constructor
  · intro printed
    obtain ⟨⟨laid, values, left⟩, taken, laidOut⟩ := bind_eq_ok_iff.mp printed
    have fronts : HasFronts (formatPieces format) := fun _ _ known => exists_front_of_mem known
    simp only at laidOut
    split_ifs at laidOut with none
    rw [List.isEmpty_iff.mp none] at taken
    -- There are as many values as verbs, so that none is left for a percent sign that begins no verb.
    have counted := openPercents_of_takePieces fronts (isChain_piecesFrom _ _) taken
    have fewer := openPercents_le_of_layOut (Nat.lt_succ_self _) laidOut
    have tight : loosePercent ∉ formatPieces format := List.count_eq_zero.mp (by omega)
    exact prints_of_layOut fronts tight (Nat.lt_succ_self _) taken laidOut
  · intro prints
    obtain ⟨laid, values, taken, laidOut⟩ := prints.laidOut
    exact bind_eq_ok_iff.mpr ⟨_, taken, laidOut _ _ (Nat.lt_succ_self _)⟩

/-! ## Counting arguments -/

/-- Whether a fault is one of a value; others are of the kind of a value, or of its size. -/
def FormatFault.isOfValue : FormatFault → Bool
  | .missing _ _ => true
  | .verb _ => true
  | .extra _ _ => true
  | .binary kind => kind = "str"
  | .width => true
  | .precision => true
  | .incomplete => true
  | .directive _ _ => true
  | _ => false

/-- Whether a fault is one of the kind of an argument that is printed with its binary digits: it is neither a whole
number nor a text. -/
def IsBinaryKind (verbs : List (List Char × Char)) (args : List Value) (fault : FormatFault) : Prop :=
  ∃ flags v, ((flags, 'b'), v) ∈ verbs.zip args ∧ v.toInt? = none ∧ v.isText = false ∧ fault = .binary v.kindName

theorem cases_convert_error {verb : Char} {v : Value} {fault : FormatFault} (stopped : convert verb v = .error fault) :
    fault.isOfValue = true ∨ verb = 'b' ∧ v.toInt? = none ∧ v.isText = false ∧ fault = .binary v.kindName := by
  rw [convert] at stopped
  split_ifs at stopped with shows quotes counts lays
  · cases whole : v.toInt? with
    | some n =>
        rw [whole] at stopped
        cases stopped
    | none =>
        rw [whole] at stopped
        cases stopped
        cases v with
        | text s => exact .inl rfl
        | none => exact .inr ⟨counts, rfl, rfl, rfl⟩
        | list items => exact .inr ⟨counts, rfl, rfl, rfl⟩
        | bool b => cases whole
        | int n => cases whole
  · cases stopped
    exact .inl rfl

/-- The first pass leaves the arguments that are more than the verbs, or it is stopped. -/
theorem takePieces_counts (pieces : List FormatPiece) (args : List Value) :
    (∃ laid values left, takePieces pieces args = .ok (laid, values, left) ∧
        args.length = (verbsOf pieces).length + left.length) ∨
      ∃ fault, takePieces pieces args = .error fault ∧
        (fault.isOfValue = true ∨ IsBinaryKind (verbsOf pieces) args fault) := by
  induction pieces generalizing args with
  | nil => exact .inl ⟨[], [], args, rfl, (Nat.zero_add _).symm⟩
  | cons piece pieces induction =>
      cases piece with
      | character c =>
          rcases induction args with ⟨laid, values, left, taken, counts⟩ | ⟨fault, stopped, kind⟩
          · exact .inl ⟨c :: laid, values, left, by rw [takePieces, taken]; rfl, counts⟩
          · exact .inr ⟨fault, by rw [takePieces, stopped]; rfl, kind⟩
      | percent flags =>
          rcases induction args with ⟨laid, values, left, taken, counts⟩ | ⟨fault, stopped, kind⟩
          · exact .inl ⟨'%' :: '%' :: laid, values, left, by rw [takePieces, taken]; rfl, counts⟩
          · exact .inr ⟨fault, by rw [takePieces, stopped]; rfl, kind⟩
      | verb flags verb =>
          have verbs : verbsOf (.verb flags verb :: pieces) = (flags, verb) :: verbsOf pieces := rfl
          cases args with
          | nil => exact .inr ⟨.missing flags verb, rfl, .inl rfl⟩
          | cons v args =>
              rw [verbs, takePieces]
              rcases converted : convert verb v with fault | ⟨letter, value⟩
              · refine .inr ⟨fault, rfl, (cases_convert_error converted).imp_right ?_⟩
                rintro ⟨rfl, whole, noText, rfl⟩
                exact ⟨flags, v, List.mem_cons_self, whole, noText, rfl⟩
              · rcases induction args with ⟨laid, values, left, taken, counts⟩ | ⟨fault, stopped, kind⟩
                · refine .inl ⟨'%' :: flags ++ letter :: laid, value :: values, left, by rw [ok_bind, taken]; rfl, ?_⟩
                  rw [List.length_cons, List.length_cons, counts]
                  omega
                · refine .inr ⟨fault, by rw [ok_bind, stopped]; rfl, kind.imp_right ?_⟩
                  rintro ⟨flags', v', known, others⟩
                  exact ⟨flags', v', List.mem_cons_of_mem _ known, others⟩

theorem formatted_of_miscount {format : List Char} {args : List Value}
    (miscounts : args.length ≠ (verbsOf (formatPieces format)).length) :
    ∃ fault, formatted format args = .error fault ∧
      (fault.isOfValue = true ∨ IsBinaryKind (verbsOf (formatPieces format)) args fault) := by
  rw [formatted, takeVerbs_eq, ← formatPieces]
  rcases takePieces_counts (formatPieces format) args with ⟨laid, values, left, taken, counts⟩ | ⟨fault, stopped, kind⟩
  · have more : left ≠ [] := by
      rintro rfl
      exact miscounts counts
    refine ⟨.extra left.length format, ?_, .inl rfl⟩
    rw [taken, ok_bind]
    simp [more]
  · exact ⟨fault, by rw [stopped]; rfl, kind⟩

/-- A format is printed exactly if there are as many arguments as verbs and its pieces can be printed with them; the
pieces are all that stands in the format.  With fewer or more arguments the fault is one of a value, or an argument that
is printed with its binary digits is of another kind. -/
theorem printf_prints (format : List Char) (args : List Value) :
    (formatPieces format).flatMap FormatPiece.written = format ∧
      (∀ result, printf (.text format :: args) = .ok result ↔
        args.length = (verbsOf (formatPieces format)).length ∧
          ∃ out, result = .text out ∧ PrintsAll (formatPieces format) args out) ∧
      (args.length = (verbsOf (formatPieces format)).length ∨
        ∃ fault, printf (.text format :: args) = .error (.format fault) ∧
          (fault.isOfValue = true ∨ IsBinaryKind (verbsOf (formatPieces format)) args fault)) := by
  refine ⟨flatMap_written_piecesFrom (Nat.lt_succ_self _), fun result => ?_, ?_⟩
  · rw [printf]
    constructor
    · intro printed
      cases formats : formatted format args with
      | error fault =>
          rw [formats] at printed
          cases printed
      | ok out =>
          rw [formats] at printed
          cases printed
          have prints := formatted_eq_ok_iff.mp formats
          exact ⟨prints.length_eq, out, rfl, prints⟩
    · rintro ⟨-, out, rfl, prints⟩
      rw [formatted_eq_ok_iff.mpr prints]
  · by_cases counts : args.length = (verbsOf (formatPieces format)).length
    · exact .inl counts
    · obtain ⟨fault, stopped, kind⟩ := formatted_of_miscount counts
      exact .inr ⟨fault, by rw [printf, stopped], kind⟩

/-- A text is cut and put into its space, a percent sign is printed, and a number is shown. -/
theorem printf_prints_mixed :
    printf [.text "%5.1s|%%|%d".toList, .text "ab".toList, .int 7] = .ok (.text "    a|%|7".toList) := by
  have pieces : formatPieces "%5.1s|%%|%d".toList =
      [.verb "5.1".toList 's', .character '|', .percent [], .character '|', .verb [] 'd'] := by cbv
  have wide : AsksFor "5.1".toList { width := 5, precision := some 1 } := by
    refine ⟨⟨[], ['5'], some ['1']⟩, ⟨List.forall_mem_nil _, ?_, List.forall_mem_singleton.mpr (by decide), ?_⟩,
      ⟨List.forall_mem_singleton.mpr (by decide), by decide, ?_⟩, by decide, by decide⟩
    · rintro c ⟨⟩
      decide
    · rintro digits ⟨⟩
      exact ⟨by decide, List.forall_mem_singleton.mpr (by decide)⟩
    · rintro digits ⟨⟩
      exact ⟨List.forall_mem_singleton.mpr (by decide), by decide⟩
  have plain : AsksFor [] {} := by
    refine ⟨⟨[], [], none⟩, ⟨List.forall_mem_nil _, ?_, List.forall_mem_nil _, ?_⟩,
      ⟨List.forall_mem_nil _, by decide, ?_⟩, rfl, rfl⟩ <;> rintro _ ⟨⟩
  have cut : Lays { width := 5, precision := some 1 } 's' (.text "ab".toList) "    a".toList := .form (.inr (.inl rfl))
  have number : Lays {} 'd' (.int 7) ['7'] := .number (by decide) (by cbv)
  refine ((printf_prints _ _).2.1 _).mpr ⟨?_, _, rfl, ?_⟩
  · rw [pieces]
    rfl
  · rw [pieces]
    exact .verb wide cut (.character (by decide) (.percent (.character (by decide) (.verb plain number .nil))))

/-- An argument without binary digits is a fault of its kind, although there is one argument more than verbs. -/
theorem printf_binary_none :
    printf [.text "%b".toList, .none, .int 1] = .error (.format (.binary "NoneType")) ∧
      FormatFault.isOfValue (.binary "NoneType") = false ∧
      (verbsOf (formatPieces "%b".toList)).length < [Value.none, .int 1].length := by
  refine ⟨?_, by decide, by decide⟩
  cbv

end Stencil.Template
