import Stencil.Proofs.Template.Absorption
import Stencil.Proofs.Template.Nesting

/-!
# Templates one behind the other

What a template prints does not depend on what is printed before it, so a template that leaves no action
open is printed as it stands, whatever template is written behind it.  Where an action is left open, some
template behind it is not printed, or takes from what is printed.
-/

namespace Stencil.Template.Direct

/-! ## Drafts on others -/

/-- Open chains with more parts before the outermost one. -/
def raise (base : List Node) : List OpenChain → List OpenChain
  | [] => []
  | o :: outer =>
    { o with before := if outer.isEmpty then o.before ++ base else o.before } :: raise base outer

namespace Draft

/-- A draft with more parts before all that it has. -/
def onto (base : List Node) (d : Draft) : Draft where
  chains := raise base d.chains
  parts := if d.chains.isEmpty then d.parts ++ base else d.parts

theorem isBound_raise (base : List Node) (chains : List OpenChain) :
    isBound (raise base chains) = isBound chains := by
  induction chains with
  | nil => rfl
  | cons o outer induction =>
      rw [raise, isBound, List.any_cons, ← isBound, induction]
      rfl

theorem read?_raise (base : List Node) (chains : List OpenChain) (body : List Char) :
    read? (raise base chains) body = read? chains body := by
  rw [read?, read?, isBound_raise]

/-- No order looks at what is before the draft. -/
theorem obey?_onto (base : List Node) (d : Draft) (order : Order) :
    (d.onto base).obey? order = (d.obey? order).map (onto base) := by
  obtain ⟨chains, parts⟩ := d
  cases order with
  | nothing => rfl
  | print body =>
      simp only [onto, obey?, read?_raise]
      cases read? chains body with
      | none => rfl
      | some e => cases chains <;> rfl
  | «open» keyword condition =>
      simp only [onto, obey?, read?_raise]
      cases read? chains condition <;> rfl
  | next keyword condition =>
      cases chains with
      | nil => rfl
      | cons o outer =>
          simp only [onto, obey?, raise, read?_raise]
          cases read? outer condition with
          | none => rfl
          | some e => cases head : o.head <;> simp [OpenChain.divide?, head, onto, raise]
  | otherwise =>
      cases chains with
      | nil => rfl
      | cons o outer =>
          simp only [onto, obey?, raise]
          cases head : o.head <;> simp [OpenChain.divide?, head, onto, raise]
  | close =>
      cases chains with
      | nil => rfl
      | cons o outer => cases outer <;> rfl

theorem add?_onto (base : List Node) (d : Draft) (piece : Piece) :
    (d.onto base).add? piece = (d.add? piece).map (onto base) := by
  cases piece with
  | text s =>
      simp only [add?]
      split
      · rfl
      · obtain ⟨chains, parts⟩ := d
        cases chains <;> rfl
  | action a =>
      simp only [add?]
      cases order? a.body with
      | none => rfl
      | some order => exact obey?_onto base d order

/-- Pieces complete a draft in the same way whatever is before it. -/
theorem complete?_onto (base : List Node) (d : Draft) (pieces : List Piece) :
    (d.onto base).complete? pieces = (d.complete? pieces).map (base.reverse ++ ·) := by
  induction pieces generalizing d with
  | nil =>
      obtain ⟨chains, parts⟩ := d
      cases chains with
      | nil => simp [complete?, onto, raise]
      | cons o outer => rfl
  | cons piece rest induction =>
      rw [complete?, complete?, add?_onto]
      cases d.add? piece with
      | none => rfl
      | some d' => exact induction d'

/-- The draft behind some pieces. -/
def addAll? (d : Draft) (pieces : List Piece) : Option Draft :=
  pieces.foldlM add? d

theorem complete?_append (d : Draft) (pieces more : List Piece) :
    d.complete? (pieces ++ more) = (d.addAll? pieces).bind fun d => d.complete? more := by
  induction pieces generalizing d with
  | nil => rfl
  | cons piece rest induction =>
      rw [List.cons_append, complete?, addAll?, List.foldlM_cons]
      cases d.add? piece with
      | none => rfl
      | some d' => exact induction d'

theorem complete?_eq_none {piece : Piece} (refused : ∀ d : Draft, d.add? piece = none) {pieces : List Piece}
    (member : piece ∈ pieces) (d : Draft) : d.complete? pieces = none := by
  induction pieces generalizing d with
  | nil => cases member
  | cons first rest induction =>
      rw [complete?]
      rcases List.mem_cons.mp member with rfl | later
      · rw [refused d]
        rfl
      · cases d.add? first with
        | none => rfl
        | some d' => exact induction later d'

theorem add?_text {s : List Char} (clean : hasPair '\x7b' '\x7b' s = false) (d : Draft) :
    d.add? (.text s) = some { d with parts := .text s :: d.parts } := by
  rw [add?, clean]
  rfl

theorem complete?_text {d : Draft} {s : List Char} {ns : List Node}
    (whole : d.complete? [.text s] = some ns) :
    d.chains = [] ∧ hasPair '\x7b' '\x7b' s = false ∧ ns = d.parts.reverse ++ [.text s] := by
  rw [complete?, add?] at whole
  split at whole
  · cases whole
  · rename_i clean
    simp only [Option.bind_some, complete?] at whole
    split at whole
    · rename_i empty
      cases whole
      exact ⟨List.isEmpty_iff.mp empty, by simpa using clean, by simp⟩
    · cases whole

/-- Nothing in a text of pieces that complete a draft looks like an unread action. -/
theorem hasPair_eq_false_of_complete? {d : Draft} {pieces : List Piece} {ns : List Node}
    (whole : d.complete? pieces = some ns) {s : List Char} (member : .text s ∈ pieces) :
    hasPair '\x7b' '\x7b' s = false := by
  cases pair : hasPair '\x7b' '\x7b' s with
  | false => rfl
  | true =>
      have refused (d : Draft) : d.add? (.text s) = none := by rw [add?, if_pos pair]
      rw [complete?_eq_none refused member] at whole
      cases whole

end Draft

/-! ## Actions that begin with a brace -/

theorem tokens_brace (s : List Char) : tokens ('\x7b' :: s) = .error '\x7b' := by
  rfl

/-- An action that begins with a brace asks for nothing that can be done. -/
theorem add?_brace {a : Action} (brace : a.body.head? = some '\x7b') (d : Draft) :
    d.add? (.action a) = none := by
  obtain ⟨s, body⟩ := List.head?_eq_some_iff.mp brace
  have noValue : d.obey? (.print a.body) = none := by
    rw [Draft.obey?, Draft.read?, expression?, body, tokens_brace]
    rfl
  have noComment : "/*".toList.isPrefixOf a.body = false := by
    rw [body]
    rfl
  have word : ∃ w, (Text.splitWord a.body).1 = '\x7b' :: w := by
    rw [body]
    exact ⟨_, rfl⟩
  obtain ⟨w, word⟩ := word
  have noKeyword : Keyword.ofWord? ('\x7b' :: w) = none := rfl
  have noElse : '\x7b' :: w ≠ "else".toList := by
    intro same
    cases same
  have noEnd : '\x7b' :: w ≠ "end".toList := by
    intro same
    cases same
  rw [Draft.add?, order?, noComment]
  simp only [word, noKeyword, if_neg noElse, if_neg noEnd, Bool.false_eq_true, if_false]
  split
  · rfl
  · exact noValue

/-! ## Texts that close their actions -/

theorem hasPair_append {s t : List Char} (ends : EndsInLetter s) (first : hasPair '\x7b' '\x7b' s = false)
    (second : hasPair '\x7b' '\x7b' t = false) : hasPair '\x7b' '\x7b' (s ++ t) = false := by
  induction s with
  | nil => exact absurd ends not_endsInLetter_nil
  | cons c s induction =>
      cases s with
      | nil =>
          have letter := endsInLetter_singleton ends
          have other : c ≠ '\x7b' := by
            rintro rfl
            cases letter
          cases t with
          | nil => rfl
          | cons d t => simpa [hasPair, other] using second
      | cons d s =>
          rw [hasPair, Bool.or_eq_false_iff] at first
          have behind := induction (ends.tail (List.cons_ne_nil d s)) first.2
          rw [List.cons_append, List.cons_append, hasPair, first.1, Bool.false_or]
          exact behind

theorem exists_cut (s : List Char) : ∃ t pieces, cut s = .text t :: pieces := by
  rw [cut, cutAfter_eq]
  cases findAction? s with
  | none => exact ⟨_, _, rfl⟩
  | some found => exact ⟨_, _, rfl⟩

theorem tree?_nil : tree? [] = some [.text []] := by
  rw [tree?, cut, cutAfter_eq]
  rfl

/-- The trees of a text that leaves no action open and of a text behind it are printed one behind the
other. -/
theorem tree?_append {s more : List Char} {ns ms : List Node} (ends : EndsInLetter s)
    (closed : leavesOpen s = false) (first : tree? s = some ns) (second : tree? more = some ms) :
    ∃ all, tree? (s ++ more) = some all ∧ ∀ p,
      Node.printAll p .none all = Node.printAll p .none (ns ++ ms) := by
  obtain ⟨pieces, t, endsT, alone, together⟩ := cutAfter_append ends closed false
  obtain ⟨u, rest, behind⟩ := exists_cut more
  rw [tree?, cut, alone, Draft.complete?_append] at first
  obtain ⟨d, built, finished⟩ := Option.bind_eq_some_iff.mp first
  obtain ⟨unchained, cleanT, rfl⟩ := Draft.complete?_text finished
  have cleanU : hasPair '\x7b' '\x7b' u = false := by
    rw [tree?, behind] at second
    exact Draft.hasPair_eq_false_of_complete? second List.mem_cons_self
  have onto (parts : List Node) : (⟨[], parts⟩ : Draft).complete? rest =
      (Draft.complete? {} rest).map (parts.reverse ++ ·) := Draft.complete?_onto parts {} rest
  rw [tree?, behind, Draft.complete?, Draft.add?_text cleanU, Option.bind_some, onto] at second
  obtain ⟨ms, finishedRest, rfl⟩ := Option.map_eq_some_iff.mp second
  refine ⟨d.parts.reverse ++ .text (t ++ u) :: ms, ?_, fun p => ?_⟩
  · have clean := hasPair_append endsT cleanT cleanU
    rw [tree?, cut, together, behind, glue, Draft.complete?_append, built, Option.bind_some,
      Draft.complete?, Draft.add?_text clean, Option.bind_some, unchained, onto, finishedRest]
    simp
  · have glued : Node.printAll p .none (.text (t ++ u) :: ms) =
        Node.printAll p .none (.text t :: .text u :: ms) := by
      simp only [Node.printAll, Node.print]
      cases Node.printAll p .none ms <;> simp
    have same : d.parts.reverse ++ [.text t] ++ ([Node.text u].reverse ++ ms) =
        d.parts.reverse ++ .text t :: .text u :: ms := by simp
    rw [same, printAll_append, printAll_append, glued]

theorem printAll_append_eq_some_iff {p : Project.Parameters} {left right : List Node} {a : List Char} :
    Node.printAll p .none (left ++ right) = some a ↔
      ∃ b c, Node.printAll p .none left = some b ∧ Node.printAll p .none right = some c ∧ b ++ c = a := by
  rw [printAll_append]
  cases Node.printAll p .none left with
  | none => simp
  | some b => cases Node.printAll p .none right <;> simp

theorem render?_append {p : Project.Parameters} {s more a b : List Char} (ends : s = [] ∨ EndsInLetter s)
    (closed : leavesOpen s = false) (first : render? p s = some a) (second : render? p more = some b) :
    render? p (s ++ more) = some (a ++ b) := by
  obtain ⟨ns, tree, printed⟩ := Option.bind_eq_some_iff.mp first
  obtain ⟨ms, treeBehind, printedBehind⟩ := Option.bind_eq_some_iff.mp second
  rcases ends with rfl | ends
  · rw [tree?_nil] at tree
    cases tree
    cases printed
    exact second
  · obtain ⟨all, whole, same⟩ := tree?_append ends closed tree treeBehind
    rw [render?, whole]
    exact (same p).trans (printAll_append_eq_some_iff.mpr ⟨a, b, printed, printedBehind, rfl⟩)

/-! ## Texts that leave an action open -/

variable (p : Project.Parameters)

theorem render?_closing (last : Mode) : render? p (closing last) = some (closing last) := by
  have pieces : cut (closing last) = [.text (closing last)] := by
    rw [cut, cutAfter_eq]
    cases last <;> rfl
  rw [render?, tree?, pieces]
  cases last <;> rfl

theorem add?_isWholeComment {a : Action} (whole : isWholeComment a.body = true) (d : Draft) :
    d.add? (.action a) = some d := by
  rw [isWholeComment, CompileState.isComment, Bool.and_eq_true] at whole
  rw [Draft.add?, order?, if_pos whole.1, if_pos whole.2]
  rfl

/-- A comment and the text behind it are printed as the text. -/
theorem render?_comment {s after : List Char} {a : Action} (found : findAction? s = some ([], a, after))
    (whole : isWholeComment a.body = true) (keeps : a.trimsAfter = false) (last : findAction? after = none)
    (clean : hasPair '\x7b' '\x7b' after = false) : render? p s = some after := by
  have pieces : cut s = [.text [], .action a, .text after] := by
    rw [cut, cutAfter_eq, found]
    simp only [keeps]
    rw [cutAfter_eq, last]
    cases a.trimsBefore <;> rfl
  have tree : tree? s = some [.text [], .text after] := by
    rw [tree?, pieces, Draft.complete?, Draft.add?_text rfl, Option.bind_some, Draft.complete?,
      add?_isWholeComment whole, Option.bind_some, Draft.complete?, Draft.add?_text clean]
    rfl
  rw [render?, tree]
  simp [Node.printAll, Node.print]

theorem render?_emptyComment : render? p emptyComment = some [] :=
  render?_comment p (a := ⟨['/', '*', '*', '/'], false, false⟩) rfl rfl rfl rfl rfl

theorem render?_of_breaks {s : List Char} (breaks : Breaks false s) :
    ∃ more b, render? p more = some b ∧ render? p (s ++ more) = none := by
  obtain ⟨last, a, member, brace⟩ := breaks
  refine ⟨closing last, closing last, render?_closing p last, ?_⟩
  rw [render?, tree?, cut, Draft.complete?_eq_none (add?_brace brace) member]
  rfl

theorem add?_isComment {a : Action} (comment : CompileState.isComment a.body = true) {d d' : Draft}
    (added : d.add? (.action a) = some d') : d' = d := by
  rw [CompileState.isComment] at comment
  rw [Draft.add?, order?, if_pos comment] at added
  split at added
  · cases added
    rfl
  · cases added

theorem render?_of_swallows {s a : List Char} (swallows : Swallows false s)
    (rendered : render? p s = some a) :
    ∃ more b, render? p more = some b ∧ render? p (s ++ more) ≠ some (a ++ b) := by
  obtain ⟨pieces, t, comment, whole, more, u, alone, endsU, loose, ended, taken⟩ := swallows
  refine ⟨emptyComment, [], render?_emptyComment p, fun together => ?_⟩
  obtain ⟨ns, first, printed⟩ := Option.bind_eq_some_iff.mp rendered
  obtain ⟨all, both, printedBoth⟩ := Option.bind_eq_some_iff.mp together
  have clean : hasPair '\x7b' '\x7b' t = false := by
    rw [tree?, cut, alone] at first
    exact Draft.hasPair_eq_false_of_complete? first (by simp)
  have addedText := Draft.add?_text clean
  rw [tree?, cut, alone, Draft.complete?_append] at first
  rw [tree?, cut, taken, Draft.complete?_append] at both
  obtain ⟨d, built, finished⟩ := Option.bind_eq_some_iff.mp first
  rw [built, Option.bind_some, Draft.complete?, addedText, Option.bind_some, Draft.complete?,
    add?_isWholeComment ended, Option.bind_some] at both
  obtain ⟨unchained, -, rfl⟩ := Draft.complete?_text both
  rw [Draft.complete?, addedText, Option.bind_some, Draft.complete?] at finished
  obtain ⟨d', added, finished⟩ := Option.bind_eq_some_iff.mp finished
  obtain rfl := add?_isComment loose added
  have onto := Draft.complete?_onto (.text t :: d.parts) {} (more ++ [.text u])
  have same : ({ d with parts := .text t :: d.parts } : Draft) = Draft.onto (.text t :: d.parts) {} := by
    rw [show d.chains = [] from unchained]
    rfl
  rw [same, onto, Draft.complete?_append] at finished
  obtain ⟨tail, finishedRest, rfl⟩ := Option.map_eq_some_iff.mp finished
  obtain ⟨d', -, ended⟩ := Option.bind_eq_some_iff.mp finishedRest
  obtain ⟨-, -, rfl⟩ := Draft.complete?_text ended
  obtain ⟨x, empty, printedFront, printedEmpty, sameBoth⟩ := printAll_append_eq_some_iff.mp printedBoth
  obtain ⟨x', y, printedFront', printedTail, same⟩ := printAll_append_eq_some_iff.mp printed
  obtain ⟨z, u', -, printedLast, rfl⟩ := printAll_append_eq_some_iff.mp printedTail
  cases printedEmpty
  cases printedLast
  cases printedFront.symm.trans printedFront'
  have none : z = [] ∧ u = [] := by
    rw [← same] at sameBoth
    simpa using sameBoth
  exact not_endsInLetter_nil (none.2 ▸ endsU)

variable {p}

theorem tree?_clean {s : List Char} {ns : List Node} (tree : tree? s = some ns) {t : List Char}
    (member : .text t ∈ cutAfter false s) : hasPair '\x7b' '\x7b' t = false :=
  Draft.hasPair_eq_false_of_complete? tree member

/-- A template that ends in a letter is rendered on its own whatever template is written behind it exactly
if it leaves no action open. -/
theorem render_append_iff {p : Project.Parameters} {s a : List Char}
    (rendered : render builtins p s = .ok a) (ends : s = [] ∨ EndsInLetter s) :
    (∀ more b, render builtins p more = .ok b → render builtins p (s ++ more) = .ok (a ++ b)) ↔
      leavesOpen s = false := by
  simp only [← toOption_eq_some_iff, toOption_render] at rendered ⊢
  constructor
  · intro composes
    cases opens : leavesOpen s with
    | false => rfl
    | true =>
        have ends : EndsInLetter s := by
          refine ends.resolve_left ?_
          rintro rfl
          rw [leavesOpen_eq] at opens
          cases opens
        obtain ⟨ns, tree, -⟩ := Option.bind_eq_some_iff.mp rendered
        rcases breaks_or_swallows ends opens false fun t member => tree?_clean tree member with
          breaks | swallows
        · obtain ⟨more, b, printed, unprinted⟩ := render?_of_breaks p breaks
          rw [composes more b printed] at unprinted
          cases unprinted
        · obtain ⟨more, b, printed, other⟩ := render?_of_swallows p swallows rendered
          exact absurd (composes more b printed) other
  · intro closed more b printed
    exact render?_append ends closed rendered printed

/-- A comment with a letter behind it is rendered on its own. -/
theorem render_append_comment :
    ∃ p : Project.Parameters, p.name = "demo" ∧ ∀ more b, render builtins p more = .ok b →
      render builtins p ("\x7b\x7b/* a */\x7d\x7dx".toList ++ more) = .ok ('x' :: b) := by
  let p : Project.Parameters := ⟨"demo", Project.noPort, by decide⟩
  have found : findAction? "\x7b\x7b/* a */\x7d\x7dx".toList =
      some ([], ⟨"/* a */".toList, false, false⟩, ['x']) := rfl
  have rendered : render? p "\x7b\x7b/* a */\x7d\x7dx".toList = some ['x'] :=
    render?_comment p found rfl rfl rfl rfl
  have closed : leavesOpen "\x7b\x7b/* a */\x7d\x7dx".toList = false := by
    rw [leavesOpen_eq, found]
    simp only [leavesOpen_eq ['x']]
    rfl
  rw [← toOption_render, toOption_eq_some_iff] at rendered
  exact ⟨p, rfl, (render_append_iff rendered (.inr rfl)).mpr closed⟩

/-- A comment with a space behind it, before the braces, ends where the next comment ends: two templates are
rendered each, and what the first prints is lost when the second stands behind it. -/
theorem render_append_loose_comment :
    ∃ p : Project.Parameters, p.name = "demo" ∧ EndsInLetter "\x7b\x7b/* a */ \x7d\x7dx".toList ∧
      render builtins p "\x7b\x7b/* a */ \x7d\x7dx".toList = .ok ['x'] ∧
      render builtins p "\x7b\x7b/*b*/\x7d\x7d".toList = .ok [] ∧
      render builtins p ("\x7b\x7b/* a */ \x7d\x7dx".toList ++ "\x7b\x7b/*b*/\x7d\x7d".toList) = .ok [] := by
  let p : Project.Parameters := ⟨"demo", Project.noPort, by decide⟩
  let taken : Action := ⟨"/* a */ \x7d\x7dx\x7b\x7b/*b*/".toList, false, false⟩
  refine ⟨p, rfl, rfl, ?_, ?_, ?_⟩
  · rw [← toOption_eq_some_iff, toOption_render]
    exact render?_comment p (a := ⟨"/* a */".toList, false, false⟩) rfl rfl rfl rfl rfl
  · rw [← toOption_eq_some_iff, toOption_render]
    exact render?_comment p (a := ⟨"/*b*/".toList, false, false⟩) rfl rfl rfl rfl rfl
  · rw [← toOption_eq_some_iff, toOption_render]
    exact render?_comment p (a := taken) rfl rfl rfl rfl rfl

end Stencil.Template.Direct
