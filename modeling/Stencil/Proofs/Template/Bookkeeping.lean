import Mathlib
import Stencil.Proofs.Outcome
import Stencil.Proofs.Text.Digits
import Stencil.Template.Compile

/-!
# The books of a compiler

A compiler remembers of every open block how many dots it binds and how many ends it owes, and keeps the
dots themselves in a list of its own.  What a page has open is read from its tags alone: an arm stands open
from the tag that begins it up to the one that divides or ends it, and it may set a dot.  Piece by piece the
two agree, so a page is balanced once no block is open, and names only dots that an arm around them has set.
-/

namespace Stencil.Template

/-! ## Dots in terms -/

mutual

/-- The dots that a term names. -/
def Term.dots : Term → List Nat
  | .dot binding => [binding]
  | .call _ args => Term.dotsOf args
  | _ => []

/-- The dots that some terms name. -/
def Term.dotsOf : List Term → List Nat
  | [] => []
  | t :: rest => t.dots ++ Term.dotsOf rest

end

/-- Whether a term names no dot but the innermost one. -/
def Term.NamesOnly (dot : Option Nat) (t : Term) : Prop :=
  ∀ binding ∈ t.dots, dot = some binding

private theorem mem_dotsOf {ts : List Term} {binding : Nat} :
    binding ∈ Term.dotsOf ts ↔ ∃ t ∈ ts, binding ∈ t.dots := by
  induction ts with
  | nil => simp [Term.dotsOf]
  | cons t ts induction => simp [Term.dotsOf, induction]

variable {scope : Scope}

private theorem namesOnly_atom {token : Token} {t : Term} (read : scope.atom token = .ok t) :
    t.NamesOnly scope.dot := by
  -- Only the dot itself is read to a term that names one.
  cases token with
  | dot =>
      cases bound : scope.dot with
      | none => simp [Scope.atom, bound] at read
      | some binding =>
          obtain rfl : .dot binding = t := by simpa [Scope.atom, bound] using read
          simp [Term.NamesOnly, Term.dots]
  | quoted written =>
      rw [Scope.atom] at read
      split at read
      · cases read
        simp [Term.NamesOnly, Term.dots]
      · cases read
  | raw s =>
      cases read
      simp [Term.NamesOnly, Term.dots]
  | numeral written =>
      cases read
      simp [Term.NamesOnly, Term.dots]
  | field names =>
      match names with
      | [] => cases read
      | _ :: _ :: _ => cases read
      | [name] =>
          rw [Scope.atom] at read
          split at read
          · cases read
          · split at read
            · cases read
              simp [Term.NamesOnly, Term.dots]
            · cases read
  | word name =>
      rw [Scope.atom] at read
      split at read
      · cases read
        simp [Term.NamesOnly, Term.dots]
      · cases read
  | _ => cases read

/-- Whatever is read in a scope with some fuel names no dot but that of the scope. -/
private structure Confines (scope : Scope) (fuel : Nat) : Prop where
  pipeline : ∀ {tokens t rest}, scope.readPipeline fuel tokens = .ok (t, rest) → t.NamesOnly scope.dot
  stages : ∀ {value tokens t rest}, value.NamesOnly scope.dot →
    scope.readStages fuel value tokens = .ok (t, rest) → t.NamesOnly scope.dot
  command : ∀ {piped tokens t rest}, (∀ value ∈ piped, value.NamesOnly scope.dot) →
    scope.readCommand fuel piped tokens = .ok (t, rest) → t.NamesOnly scope.dot
  operands : ∀ {tokens ts rest}, scope.readOperands fuel tokens = .ok (ts, rest) →
    ∀ t ∈ ts, t.NamesOnly scope.dot
  operand : ∀ {tokens t rest}, scope.readOperand fuel tokens = .ok (t, rest) → t.NamesOnly scope.dot

private theorem Confines.zero (scope : Scope) : Confines scope 0 := by
  constructor
  case stages =>
    intro value tokens t rest known read
    cases read
    exact known
  all_goals
    intros
    simp_all [Scope.readPipeline, Scope.readCommand, Scope.readOperands, Scope.readOperand]

private theorem namesOnly_call {dot : Option Nat} {name : List Char} {args : List Term} {piped : Option Term}
    (given : ∀ arg ∈ args, arg.NamesOnly dot) (known : ∀ value ∈ piped, value.NamesOnly dot) :
    (Term.call name (args ++ piped.toList)).NamesOnly dot := by
  intro binding named
  obtain ⟨arg, member, named⟩ := mem_dotsOf.mp named
  rcases List.mem_append.mp member with member | member
  · exact given arg member binding named
  · exact known arg (by simpa using member) binding named

section Reading

variable {fuel : Nat} (confines : Confines scope fuel)

include confines

private theorem Confines.pipeline_succ {tokens rest : List Token} {t : Term}
    (read : scope.readPipeline (fuel + 1) tokens = .ok (t, rest)) : t.NamesOnly scope.dot := by
  obtain ⟨⟨value, behind⟩, command, stages⟩ := bind_eq_ok_iff.mp read
  exact confines.stages (confines.command (by simp) command) stages

private theorem Confines.stages_succ {value t : Term} {tokens rest : List Token} (known : value.NamesOnly scope.dot)
    (read : scope.readStages (fuel + 1) value tokens = .ok (t, rest)) : t.NamesOnly scope.dot := by
  unfold Scope.readStages at read
  split at read
  case h_1 same =>
    cases same
    obtain ⟨⟨value', behind⟩, command, stages⟩ := bind_eq_ok_iff.mp read
    exact confines.stages (confines.command (by simpa using known) command) stages
  case h_2 =>
    cases read
    exact known

private theorem Confines.command_succ {piped : Option Term} {tokens rest : List Token} {t : Term}
    (known : ∀ value ∈ piped, value.NamesOnly scope.dot)
    (read : scope.readCommand (fuel + 1) piped tokens = .ok (t, rest)) : t.NamesOnly scope.dot := by
  unfold Scope.readCommand at read
  split at read
  · cases read
  split at read
  · cases read
  simp only at read
  split at read
  · split at read
    · obtain ⟨⟨args, behind⟩, operands, same⟩ := bind_eq_ok_iff.mp read
      cases same
      exact namesOnly_call (confines.operands operands) known
    · cases read
  · split at read
    · cases read
    · obtain ⟨⟨value, behind⟩, operand, ended⟩ := bind_eq_ok_iff.mp read
      simp only at ended
      split at ended
      · cases ended
        exact confines.operand operand
      · cases ended

private theorem Confines.operands_succ {tokens rest : List Token} {ts : List Term}
    (read : scope.readOperands (fuel + 1) tokens = .ok (ts, rest)) : ∀ t ∈ ts, t.NamesOnly scope.dot := by
  unfold Scope.readOperands at read
  split at read
  · cases read
    exact List.forall_mem_nil _
  · obtain ⟨⟨value, behind⟩, operand, read⟩ := bind_eq_ok_iff.mp read
    obtain ⟨⟨values, behind⟩, operands, same⟩ := bind_eq_ok_iff.mp read
    cases same
    exact List.forall_mem_cons.mpr ⟨confines.operand operand, confines.operands operands⟩

private theorem Confines.operand_succ {tokens rest : List Token} {t : Term}
    (read : scope.readOperand (fuel + 1) tokens = .ok (t, rest)) : t.NamesOnly scope.dot := by
  unfold Scope.readOperand at read
  split at read
  case h_1 => cases read
  case h_2 => cases read
  case h_3 same =>
    cases same
    obtain ⟨⟨value, behind⟩, pipeline, closed⟩ := bind_eq_ok_iff.mp read
    simp only at closed
    split at closed
    · cases closed
      exact confines.pipeline pipeline
    · cases closed
  case h_4 =>
    obtain ⟨_, atom, same⟩ := map_eq_ok_iff.mp read
    cases same
    exact namesOnly_atom atom

end Reading

private theorem confines (scope : Scope) (fuel : Nat) : Confines scope fuel := by
  induction fuel with
  | zero => exact .zero scope
  | succ fuel induction =>
      exact ⟨induction.pipeline_succ, induction.stages_succ, induction.command_succ, induction.operands_succ,
        induction.operand_succ⟩

theorem namesOnly_read {body : List Char} {t : Term} (read : scope.read body = .ok t) :
    t.NamesOnly scope.dot := by
  unfold Scope.read at read
  split at read
  · cases read
  · cases read
  · obtain ⟨⟨value, behind⟩, pipeline, ended⟩ := bind_eq_ok_iff.mp read
    simp only at ended
    split at ended
    · cases ended
      exact (confines scope _).pipeline pipeline
    · cases ended

/-! ## Pieces -/

/-- What a compiler may do with one piece: the state behind it and the tags for it. -/
inductive Emits (state : CompileState) : CompileState → List Tag → Prop
  /-- Nothing, for a comment or an empty text. -/
  | nothing : Emits state state []
  /-- A text is copied. -/
  | data (s : List Char) : Emits state state [.data s]
  /-- A value is printed. -/
  | output {t : Term} (known : t.NamesOnly state.dots.head?) : Emits state state [.output t]
  /-- A block is opened for a condition. -/
  | openIf {t : Term} (known : t.NamesOnly state.dots.head?) :
    Emits state { state with blocks := { keyword := .ifBlock } :: state.blocks } [.ifOpen t]
  /-- A block is opened for a value, which is bound to a new dot. -/
  | openWith {t : Term} (known : t.NamesOnly state.dots.head?) :
    Emits state
      { blocks := { keyword := .withBlock, dots := 1 } :: state.blocks
        dots := (state.bindings + 1) :: state.dots
        bindings := state.bindings + 1 }
      [.assign (state.bindings + 1) t, .ifOpen (.dot (state.bindings + 1))]
  /-- A block comes to its last arm, which sees the dots around the block. -/
  | otherwise {top : Block} {outer : List Block} (opened : state.blocks = top :: outer) :
    Emits state
      { state with blocks := { top with dots := 0 } :: outer, dots := state.dots.drop top.dots }
      [.elseOpen]
  /-- A block comes to a further arm with a condition, which sees the dots around the block. -/
  | elseIf {top : Block} {outer : List Block} {t : Term} (opened : state.blocks = top :: outer)
    (known : t.NamesOnly (state.dots.drop top.dots).head?) :
    Emits state
      { state with blocks := { top with dots := 0 } :: outer, dots := state.dots.drop top.dots }
      [.elifOpen t]
  /-- A block comes to a further arm with a value, which takes an end of its own. -/
  | elseWith {top : Block} {outer : List Block} {t : Term} (opened : state.blocks = top :: outer)
    (known : t.NamesOnly (state.dots.drop top.dots).head?) :
    Emits state
      { blocks := { top with dots := 1, ends := top.ends + 1 } :: outer
        dots := (state.bindings + 1) :: state.dots.drop top.dots
        bindings := state.bindings + 1 }
      [.elseOpen, .assign (state.bindings + 1) t, .ifOpen (.dot (state.bindings + 1))]
  /-- A block ends, with all ends that it owes. -/
  | close {top : Block} {outer : List Block} (opened : state.blocks = top :: outer) :
    Emits state { state with blocks := outer, dots := state.dots.drop top.dots }
      (List.replicate top.ends .endBlock)

variable {isFunction : List Char → Bool} {state state' : CompileState} {tags : List Tag}

private theorem namesOnly_term {body : List Char} {t : Term}
    (read : state.term isFunction body = .ok t) : t.NamesOnly state.dots.head? := by
  rw [CompileState.term] at read
  split at read
  · rename_i same
    cases read
    exact namesOnly_read same
  · cases read

private theorem emits_openArm {keyword : Keyword} {body : List Char}
    (opened : state.openArm isFunction keyword body { keyword } state.blocks = .ok (state', tags)) :
    Emits state state' tags := by
  obtain ⟨t, read, same⟩ := bind_eq_ok_iff.mp opened
  cases keyword with
  | ifBlock =>
      cases same
      exact .openIf (namesOnly_term read)
  | withBlock =>
      cases same
      exact .openWith (namesOnly_term read)

private theorem emits_divide {rest : List Char}
    (divided : state.divide isFunction rest = .ok (state', tags)) : Emits state state' tags := by
  rw [CompileState.divide] at divided
  cases opened : state.blocks with
  | nil => simp [opened] at divided
  | cons top outer =>
      simp only [opened] at divided
      split at divided
      · cases divided
        exact .otherwise opened
      split at divided
      · cases divided
      · cases divided
      · obtain ⟨t, read, same⟩ := bind_eq_ok_iff.mp divided
        cases same
        exact .elseIf opened (namesOnly_term read)
      · obtain ⟨⟨_, _⟩, arm, same⟩ := bind_eq_ok_iff.mp divided
        obtain ⟨t, read, same'⟩ := bind_eq_ok_iff.mp arm
        cases same'
        cases same
        exact .elseWith opened (namesOnly_term read)

private theorem emits_close {rest : List Char} (closed : state.close rest = .ok (state', tags)) :
    Emits state state' tags := by
  rw [CompileState.close] at closed
  split at closed
  · cases closed
  cases opened : state.blocks with
  | nil => simp [opened] at closed
  | cons top outer =>
      simp only [opened] at closed
      cases closed
      exact .close opened

private theorem emits_action {body : List Char}
    (acted : state.action isFunction body = .ok (state', tags)) : Emits state state' tags := by
  rw [CompileState.action] at acted
  split at acted
  · split at acted
    · cases acted
      exact .nothing
    · cases acted
  simp only at acted
  split at acted
  · split at acted
    · cases acted
    · exact emits_openArm acted
  split at acted
  · exact emits_divide acted
  split at acted
  · exact emits_close acted
  split at acted
  · cases acted
  · obtain ⟨t, read, same⟩ := bind_eq_ok_iff.mp acted
    cases same
    exact .output (namesOnly_term read)

/-- A piece that is compiled does one of the things that pieces do. -/
theorem emits_of_pieceTags {piece : Piece}
    (compiled : pieceTags isFunction state piece = .ok (state', tags)) : Emits state state' tags := by
  cases piece with
  | action a => exact emits_action compiled
  | text s =>
      obtain ⟨made, texts, same⟩ := map_eq_ok_iff.mp compiled
      cases same
      rw [textTags] at texts
      split at texts
      · cases texts
      split at texts
      · cases texts
        exact .nothing
      split at texts
      · cases texts
        exact .output nofun
      · cases texts
        exact .data s

/-! ## Open arms -/

/-- Whether all dots that a term names are set by some of the arms that are open. -/
def Term.NamesSet (arms : List (Option Nat)) (t : Term) : Prop :=
  ∀ binding ∈ t.dots, some binding ∈ arms

/-- Tags lead from the arms that are open before them to those that are open behind them, the innermost first.
An arm is known by the dot that it sets, if it sets one: then the tag that sets it stands before the tag that
opens the arm for it.  The tag that divides a block takes the place of its arm, and names what arms around the
block have set. -/
inductive Nests : List (Option Nat) → Page → List (Option Nat) → Prop
  /-- No tag changes nothing. -/
  | nil {arms : List (Option Nat)} : Nests arms [] arms
  /-- Text is copied. -/
  | data {arms after : List (Option Nat)} {page : Page} (s : List Char) (behind : Nests arms page after) :
    Nests arms (.data s :: page) after
  /-- A value is printed. -/
  | output {arms after : List (Option Nat)} {page : Page} {t : Term} (known : t.NamesSet arms)
    (behind : Nests arms page after) : Nests arms (.output t :: page) after
  /-- An arm is opened. -/
  | ifOpen {arms after : List (Option Nat)} {page : Page} {t : Term} (known : t.NamesSet arms)
    (behind : Nests (none :: arms) page after) : Nests arms (.ifOpen t :: page) after
  /-- An arm is opened that sets a dot. -/
  | withOpen {arms after : List (Option Nat)} {page : Page} {t : Term} {binding : Nat}
    (known : t.NamesSet arms) (behind : Nests (some binding :: arms) page after) :
    Nests arms (.assign binding t :: .ifOpen (.dot binding) :: page) after
  /-- A further arm follows. -/
  | elifOpen {arm : Option Nat} {arms after : List (Option Nat)} {page : Page} {t : Term}
    (known : t.NamesSet arms) (behind : Nests (none :: arms) page after) :
    Nests (arm :: arms) (.elifOpen t :: page) after
  /-- A last arm follows. -/
  | elseOpen {arm : Option Nat} {arms after : List (Option Nat)} {page : Page}
    (behind : Nests (none :: arms) page after) : Nests (arm :: arms) (.elseOpen :: page) after
  /-- The innermost arm ends. -/
  | endBlock {arm : Option Nat} {arms after : List (Option Nat)} {page : Page}
    (behind : Nests arms page after) : Nests (arm :: arms) (.endBlock :: page) after

variable {arms middle after : List (Option Nat)} {page more : Page}

theorem Nests.append (first : Nests arms page middle) (second : Nests middle more after) :
    Nests arms (page ++ more) after := by
  induction first with
  | nil => exact second
  | data s _ induction => exact .data s (induction second)
  | output known _ induction => exact .output known (induction second)
  | ifOpen known _ induction => exact .ifOpen known (induction second)
  | withOpen known _ induction => exact .withOpen known (induction second)
  | elifOpen known _ induction => exact .elifOpen known (induction second)
  | elseOpen _ induction => exact .elseOpen (induction second)
  | endBlock _ induction => exact .endBlock (induction second)

theorem nests_replicate_endBlock (ended arms : List (Option Nat)) :
    Nests (ended ++ arms) (List.replicate ended.length .endBlock) arms := by
  induction ended with
  | nil => exact .nil
  | cons arm ended induction => exact .endBlock induction

/-- Whether a tag opens a block. -/
def Tag.opensBlock : Tag → Bool
  | .ifOpen _ => true
  | _ => false

/-- Whether a tag ends a block. -/
def Tag.endsBlock : Tag → Bool
  | .endBlock => true
  | _ => false

/-- The dot that a tag sets, if it sets one. -/
def Tag.binding? : Tag → Option Nat
  | .assign binding _ => some binding
  | _ => none

/-- Tags that open blocks and tags that end them make up the difference of what is open. -/
theorem Nests.count (nests : Nests arms page after) :
    arms.length + page.countP Tag.opensBlock = after.length + page.countP Tag.endsBlock := by
  induction nests with
  | nil => rfl
  | data _ _ induction => simpa [Tag.opensBlock, Tag.endsBlock] using induction
  | output _ _ induction => simpa [Tag.opensBlock, Tag.endsBlock] using induction
  | ifOpen _ _ induction =>
      simp only [List.length_cons] at induction
      simp [List.countP_cons, Tag.opensBlock, Tag.endsBlock]
      omega
  | withOpen _ _ induction =>
      simp only [List.length_cons] at induction
      simp [List.countP_cons, Tag.opensBlock, Tag.endsBlock]
      omega
  | elifOpen _ _ induction => simpa [Tag.opensBlock, Tag.endsBlock] using induction
  | elseOpen _ induction => simpa [Tag.opensBlock, Tag.endsBlock] using induction
  | endBlock _ induction =>
      simp [List.countP_cons, Tag.opensBlock, Tag.endsBlock]
      omega

/-! ## The books -/

/-- The ends that open blocks owe. -/
def owed : List Block → Nat
  | [] => 0
  | block :: outer => block.ends + owed outer

/-- The arms that stand open for blocks: of each block the one that was opened last, with the dot that the block
holds, and around it those that end with it. -/
def openArms : List (Block × Option Nat) → List (Option Nat)
  | [] => []
  | (block, dot) :: outer => dot :: List.replicate (block.ends - 1) none ++ openArms outer

/-- What a compiler remembers is what the page that it has made so far shows; `held` are the open blocks, each
with the dot that it holds, if it holds one. -/
structure Books (held : List (Block × Option Nat)) (state : CompileState) (page : Page) : Prop where
  /-- These are the open blocks. -/
  blocks : state.blocks = held.map (·.1)
  /-- Every block has counted its dots, and owes an end. -/
  counted : ∀ entry ∈ held, entry.1.dots = entry.2.toList.length ∧ 0 < entry.1.ends
  /-- The dots at the moment are those that the blocks hold. -/
  dots : state.dots = held.flatMap (·.2.toList)
  /-- The arms that the page has open stand open for these blocks. -/
  nests : Nests [] page (openArms held)
  /-- The dots that the page sets have been numbered one after the other. -/
  bound : page.filterMap Tag.binding? = List.range' 1 state.bindings

private theorem mem_openArms {held : List (Block × Option Nat)} {binding : Nat}
    (member : binding ∈ held.flatMap (·.2.toList)) : some binding ∈ openArms held := by
  induction held with
  | nil => simp at member
  | cons entry outer induction =>
      obtain ⟨block, dot⟩ := entry
      rw [List.flatMap_cons, List.mem_append] at member
      rcases member with here | behind
      · simp_all [openArms]
      · simp [openArms, induction behind]

private theorem namesSet_of_namesOnly {t : Term} {held : List (Block × Option Nat)}
    (known : t.NamesOnly (held.flatMap (·.2.toList)).head?) : t.NamesSet (openArms held) := by
  intro binding named
  exact mem_openArms (List.mem_of_mem_head? (known binding named))

theorem compileFrom_append (isFunction : List Char → Bool) (state : CompileState) (front back : List Piece) :
    compileFrom isFunction state (front ++ back) = (do
      let (state, tags) ← compileFrom isFunction state front
      let (state, more) ← compileFrom isFunction state back
      .ok (state, tags ++ more)) := by
  induction front generalizing state with
  | nil =>
      simp only [List.nil_append, compileFrom, ok_bind]
      cases compileFrom isFunction state back <;> rfl
  | cons piece front induction =>
      simp only [List.cons_append, compileFrom, induction]
      cases pieceTags isFunction state piece with
      | error fault => rfl
      | ok made =>
          simp only [ok_bind]
          cases compileFrom isFunction made.1 front with
          | error fault => rfl
          | ok first =>
              simp only [ok_bind]
              cases compileFrom isFunction first.1 back with
              | error fault => rfl
              | ok second => simp

namespace Books

variable {held : List (Block × Option Nat)}

theorem empty : Books [] {} [] where
  blocks := rfl
  counted := nofun
  dots := rfl
  nests := .nil
  bound := rfl

/-- A tag that binds no dot goes behind a page. -/
private theorem bound_append (books : Books held state page) {tags : List Tag}
    (silent : tags.filterMap Tag.binding? = []) :
    (page ++ tags).filterMap Tag.binding? = List.range' 1 state.bindings := by
  rw [List.filterMap_append, silent, List.append_nil, books.bound]

private theorem bound_append_assign (books : Books held state page) {tags : List Tag}
    (next : tags.filterMap Tag.binding? = [state.bindings + 1]) :
    (page ++ tags).filterMap Tag.binding? = List.range' 1 (state.bindings + 1) := by
  rw [List.filterMap_append, next, books.bound, List.range'_1_concat, Nat.add_comm 1]

/-- The innermost block with the dot that it holds, and what is left of the books once it lets go of it. -/
private theorem innermost (books : Books held state page) {top : Block} {outer : List Block}
    (opened : state.blocks = top :: outer) :
    ∃ dot around, held = (top, dot) :: around ∧ outer = around.map (·.1) ∧
      (∀ entry ∈ around, entry.1.dots = entry.2.toList.length ∧ 0 < entry.1.ends) ∧
      state.dots.drop top.dots = around.flatMap (·.2.toList) ∧ 0 < top.ends ∧
      Nests [] page (dot :: List.replicate (top.ends - 1) none ++ openArms around) := by
  obtain ⟨blocks, counted, dots, nests, -⟩ := books
  rw [opened] at blocks
  cases held with
  | nil => cases blocks
  | cons entry around =>
      obtain ⟨block, dot⟩ := entry
      obtain ⟨rfl, rfl⟩ := List.cons.inj blocks
      obtain ⟨here, behind⟩ := List.forall_mem_cons.mp counted
      refine ⟨dot, around, rfl, rfl, behind, ?_, here.2, nests⟩
      rw [dots, List.flatMap_cons, here.1, List.drop_left]

/-- What is done with one piece keeps the books in order. -/
theorem emits (books : Books held state page) {tags : List Tag} (emits : Emits state state' tags) :
    ∃ held', Books held' state' (page ++ tags) := by
  obtain ⟨blocks, counted, dots, nests, bound⟩ := id books
  cases emits with
  | nothing => exact ⟨held, by rwa [List.append_nil]⟩
  | data s =>
      exact ⟨held, blocks, counted, dots, nests.append (.data s .nil), books.bound_append rfl⟩
  | output known =>
      have set := namesSet_of_namesOnly (dots ▸ known)
      exact ⟨held, blocks, counted, dots, nests.append (.output set .nil), books.bound_append rfl⟩
  | openIf known =>
      have set := namesSet_of_namesOnly (dots ▸ known)
      refine ⟨({ keyword := .ifBlock }, none) :: held, congrArg _ blocks, ?_, dots,
        nests.append (.ifOpen set .nil), books.bound_append rfl⟩
      exact List.forall_mem_cons.mpr ⟨⟨rfl, Nat.one_pos⟩, counted⟩
  | openWith known =>
      have set := namesSet_of_namesOnly (dots ▸ known)
      refine ⟨({ keyword := .withBlock, dots := 1 }, some (state.bindings + 1)) :: held,
        congrArg _ blocks, ?_, congrArg _ dots, nests.append (.withOpen set .nil),
        books.bound_append_assign rfl⟩
      exact List.forall_mem_cons.mpr ⟨⟨rfl, Nat.one_pos⟩, counted⟩
  | @otherwise top outer opened =>
      obtain ⟨dot, around, rfl, rfl, behind, released, owes, nests⟩ := books.innermost opened
      refine ⟨({ top with dots := 0 }, none) :: around, rfl, ?_, released,
        nests.append (.elseOpen .nil), books.bound_append rfl⟩
      exact List.forall_mem_cons.mpr ⟨⟨rfl, owes⟩, behind⟩
  | @elseIf top outer t opened known =>
      obtain ⟨dot, around, rfl, rfl, behind, released, owes, nests⟩ := books.innermost opened
      have set : t.NamesSet (List.replicate (top.ends - 1) none ++ openArms around) := by
        intro binding named
        apply List.mem_append_right
        exact namesSet_of_namesOnly (released ▸ known) binding named
      refine ⟨({ top with dots := 0 }, none) :: around, rfl, ?_, released,
        nests.append (.elifOpen set .nil), books.bound_append rfl⟩
      exact List.forall_mem_cons.mpr ⟨⟨rfl, owes⟩, behind⟩
  | @elseWith top outer t opened known =>
      obtain ⟨dot, around, rfl, rfl, behind, released, owes, nests⟩ := books.innermost opened
      have set : t.NamesSet (none :: List.replicate (top.ends - 1) none ++ openArms around) := by
        intro binding named
        apply List.mem_append_right
        exact namesSet_of_namesOnly (released ▸ known) binding named
      have arms : none :: List.replicate (top.ends - 1) none = List.replicate top.ends (none : Option Nat) := by
        rw [← List.replicate_succ, Nat.sub_add_cancel owes]
      refine ⟨({ top with dots := 1, ends := top.ends + 1 }, some (state.bindings + 1)) :: around, rfl, ?_,
        congrArg _ released, ?_, books.bound_append_assign rfl⟩
      · exact List.forall_mem_cons.mpr ⟨⟨rfl, Nat.succ_pos _⟩, behind⟩
      · have opens : Nests [] (page ++ [.elseOpen, .assign (state.bindings + 1) t,
              .ifOpen (.dot (state.bindings + 1))])
            (some (state.bindings + 1) :: (none :: List.replicate (top.ends - 1) none ++ openArms around)) :=
          nests.append (.elseOpen (.withOpen set .nil))
        rwa [arms] at opens
  | @close top outer opened =>
      obtain ⟨dot, around, rfl, rfl, behind, released, owes, nests⟩ := books.innermost opened
      have length : (dot :: List.replicate (top.ends - 1) none).length = top.ends := by
        rw [List.length_cons, List.length_replicate, Nat.sub_add_cancel owes]
      have ended := nests_replicate_endBlock (dot :: List.replicate (top.ends - 1) none) (openArms around)
      rw [length] at ended
      refine ⟨around, rfl, behind, released, nests.append ended, books.bound_append ?_⟩
      simp [Tag.binding?]

/-- So do all pieces together. -/
theorem compileFrom (books : Books held state page) {pieces : List Piece} {more : Page}
    (compiled : compileFrom isFunction state pieces = .ok (state', more)) :
    ∃ held', Books held' state' (page ++ more) := by
  induction pieces generalizing held state page more with
  | nil =>
      cases compiled
      exact ⟨held, by rwa [List.append_nil]⟩
  | cons piece rest induction =>
      obtain ⟨⟨next, tags⟩, first, compiled⟩ := bind_eq_ok_iff.mp compiled
      obtain ⟨⟨last, others⟩, behind, same⟩ := bind_eq_ok_iff.mp compiled
      cases same
      obtain ⟨held', books'⟩ := books.emits (emits_of_pieceTags first)
      rw [← List.append_assoc]
      exact induction books' behind

end Books

theorem length_openArms {held : List (Block × Option Nat)} (owes : ∀ entry ∈ held, 0 < entry.1.ends) :
    (openArms held).length = owed (held.map (·.1)) := by
  induction held with
  | nil => rfl
  | cons entry outer induction =>
      obtain ⟨here, behind⟩ := List.forall_mem_cons.mp owes
      simp only [openArms, List.map_cons, owed, List.length_append, List.length_cons, List.length_replicate,
        induction behind]
      omega

theorem dotName_injective : Function.Injective dotName := by
  intro n m same
  exact Text.digits_injective (List.append_cancel_left same)

/-- The books of a compiler are in order after every piece.  The dots at the moment are those that open blocks
hold, block by block; no two dots that are set have one name; and the page has opened as many blocks as it has
ended and open blocks owe ends.  So a whole page is nested: whatever it opens it ends, its dots are named only
in arms that have set them, and no dot is left. -/
theorem compile_bookkeeping (isFunction : List Char → Bool) (content : List Char) :
    (∀ front state page, front <+: cut content → compileFrom isFunction {} front = .ok (state, page) →
      (∃ held : List (Block × Option Nat), state.blocks = held.map (·.1) ∧
        (∀ entry ∈ held, entry.1.dots = entry.2.toList.length) ∧
        state.dots = held.flatMap (·.2.toList) ∧ Nests [] page (openArms held)) ∧
      ((page.filterMap Tag.binding?).map dotName).Nodup ∧
      page.countP Tag.opensBlock = page.countP Tag.endsBlock + owed state.blocks) ∧
    ∀ page, compile isFunction content = .ok page →
      Nests [] page [] ∧ page.countP Tag.opensBlock = page.countP Tag.endsBlock ∧
      ∃ state, compileFrom isFunction {} (cut content) = .ok (state, page) ∧
        state.blocks = [] ∧ state.dots = [] := by
  constructor
  · intro front state page _ compiled
    obtain ⟨held, books⟩ := Books.empty.compileFrom compiled
    have counts := books.nests.count
    refine ⟨⟨held, books.blocks, fun entry member => (books.counted entry member).1, books.dots, books.nests⟩,
      ?_, ?_⟩
    · rw [← List.nil_append page, books.bound]
      apply List.pairwise_map.mpr
      exact List.Pairwise.imp (fun different same => different (dotName_injective same)) List.nodup_range'
    · rw [length_openArms fun entry member => (books.counted entry member).2, ← books.blocks] at counts
      simpa [Nat.add_comm] using counts
  · intro page compiled
    obtain ⟨⟨state, page'⟩, pieces, ended⟩ := bind_eq_ok_iff.mp compiled
    obtain ⟨held, books⟩ := Books.empty.compileFrom pieces
    simp only at ended
    split at ended
    case h_2 => cases ended
    case h_1 closed =>
      cases ended
      obtain rfl : held = [] := by simpa [closed] using books.blocks
      have nests : Nests [] page [] := books.nests
      exact ⟨nests, by simpa using nests.count, state, pieces, closed, books.dots⟩

private def elseWithFront : List Piece :=
  [.text [], .action ⟨"with .Name".toList, false, false⟩, .text [],
    .action ⟨"else with .Port".toList, false, false⟩, .text [], .action ⟨['.'], false, false⟩]

private def elseWithState : CompileState :=
  ⟨[{ keyword := .withBlock, dots := 1, ends := 2 }], [2], 2⟩

private def elseWithPage : Page :=
  [.assign 1 (.field .name), .ifOpen (.dot 1), .elseOpen, .assign 2 (.field .port), .ifOpen (.dot 2),
    .output (.dot 2)]

private theorem cut_elseWith :
    cut "\x7b\x7bwith .Name\x7d\x7d\x7b\x7belse with .Port\x7d\x7d\x7b\x7b.\x7d\x7d\x7b\x7bend\x7d\x7d".toList =
      elseWithFront ++ [.text [], .action ⟨"end".toList, false, false⟩, .text []] := by
  cbv

private theorem compileFrom_elseWithFront :
    compileFrom (fun _ => false) {} elseWithFront = .ok (elseWithState, elseWithPage) := by
  cbv

private theorem compileFrom_end :
    compileFrom (fun _ => false) elseWithState [.text [], .action ⟨"end".toList, false, false⟩, .text []] =
      .ok (⟨[], [], 2⟩, [.endBlock, .endBlock]) := by
  cbv

/-- In the last arm of `{{with .Name}}{{else with .Port}}{{.}}{{end}}` the second dot has taken the place of the
first one, and two ends are owed; behind the template nothing is open. -/
theorem compile_bookkeeping_else_with :
    ∃ content, content =
        "\x7b\x7bwith .Name\x7d\x7d\x7b\x7belse with .Port\x7d\x7d\x7b\x7b.\x7d\x7d\x7b\x7bend\x7d\x7d".toList ∧
      (∃ front state page, front <+: cut content ∧
        compileFrom (fun _ => false) {} front = .ok (state, page) ∧
        state.dots = [2] ∧ state.blocks.map (·.ends) = [2] ∧
        page.countP Tag.opensBlock = page.countP Tag.endsBlock + 2) ∧
      ∃ page, compile (fun _ => false) content = .ok page ∧ Nests [] page [] := by
  refine ⟨_, rfl, ?_⟩
  have early := List.prefix_append elseWithFront [.text [], .action ⟨"end".toList, false, false⟩, .text []]
  rw [← cut_elseWith] at early
  have whole : compile (fun _ => false)
      "\x7b\x7bwith .Name\x7d\x7d\x7b\x7belse with .Port\x7d\x7d\x7b\x7b.\x7d\x7d\x7b\x7bend\x7d\x7d".toList =
        .ok (elseWithPage ++ [.endBlock, .endBlock]) := by
    rw [compile, cut_elseWith, compileFrom_append, compileFrom_elseWithFront]
    simp only [ok_bind, compileFrom_end]
  obtain ⟨behind, all⟩ := compile_bookkeeping (fun _ => false) _
  have counts := (behind _ _ _ early compileFrom_elseWithFront).2.2
  exact ⟨⟨_, _, _, early, compileFrom_elseWithFront, rfl, rfl, counts⟩, _, whole, (all _ whole).1⟩

end Stencil.Template
