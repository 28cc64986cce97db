import Stencil.Template.Page
import Stencil.Text.Whole

/-!
# Statements

A page is checked and nested before it runs: every numeral has to be a number, and every tag has to stand
where its block expects it.  Faults come in the order of the page.
-/

namespace Stencil.Template

/-- A part of a program that is run. -/
inductive Statement
  /-- Data that is copied. -/
  | data (s : List Char)
  /-- An expression that is printed. -/
  | output (t : Term)
  /-- The binding of a numbered dot. -/
  | assign (binding : Nat) (t : Term)
  /-- A block: the first arm whose test holds, or else the last part. -/
  | branch (arms : List (Term × List Statement)) (otherwise : List Statement)
deriving Repr

/-- What an expression stands in. -/
inductive Place
  /-- The arguments of a call. -/
  | call
  /-- A printed expression. -/
  | output
  /-- A tag. -/
  | tag
deriving DecidableEq, Repr

/-- What has to follow an expression. -/
def Place.expects : Place → String
  | .call => ","
  | .output => "end of print statement"
  | .tag => "end of statement block"

/-- A tag that stands where its block does not expect it. -/
inductive Stray
  /-- A further arm. -/
  | elifOpen
  /-- The last arm. -/
  | elseOpen
  /-- The end. -/
  | endBlock
deriving DecidableEq, Repr

/-- The word of a stray tag. -/
def Stray.word : Stray → String
  | .elifOpen => "elif"
  | .elseOpen => "else"
  | .endBlock => "endif"

/-- Why a page cannot run. -/
inductive PageFault
  /-- Digits that go on behind a number. -/
  | numeral (place : Place)
  /-- Digits that do not begin with an ASCII one. -/
  | digits
  /-- Digits that are too many for a number. -/
  | tooLong (count : Nat)
  /-- A tag that its block does not expect; `around` says whether a block around it does. -/
  | stray (tag : Stray) (around : Bool)
  /-- A tag outside of blocks. -/
  | outside (tag : Stray)
  /-- A block that does not end; `last` says whether it is in its last arm. -/
  | unclosed (last : Bool)
deriving DecidableEq, Repr

/-- The wording of a page fault. -/
def PageFault.message : PageFault → String
  | .numeral place => "expected token '" ++ place.expects ++ "', got 'integer'"
  | .digits => "Invalid character in identifier"
  | .tooLong count => Text.tooLongMessage count
  | .stray tag around =>
    let looking := if around then
        "You probably made a nesting mistake. Jinja is expecting this tag, but currently looking for 'endif'."
      else "Jinja was looking for the following tags: 'endif'."
    "Encountered unknown tag '" ++ tag.word ++ "'. " ++ looking ++
      " The innermost block that needs to be closed is 'if'."
  | .outside tag => "Encountered unknown tag '" ++ tag.word ++ "'."
  | .unclosed last =>
    "Unexpected end of template. Jinja was looking for the following tags: " ++
      (if last then "'endif'" else "'elif' or 'else' or 'endif'") ++
      ". The innermost block that needs to be closed is 'if'."

/-- Whether a fault is one of numbers, and not one of the form of the page. -/
def PageFault.isNumeric : PageFault → Bool
  | .tooLong _ => true
  | _ => false

/-- The fault of a row of digits, if it is no number. -/
def digitsFault? (place : Place) (digits : List Char) : Option PageFault :=
  match digits with
  | [] => none
  | c :: _ =>
    if !Text.isAsciiDigit c then some .digits
    else if c ≠ '0' then (if Text.mostDigits < digits.length then some (.tooLong digits.length) else none)
    else
      let zeros := digits.takeWhile (· = '0')
      if Text.mostDigits < zeros.length then some (.tooLong zeros.length)
      else
        let rest := digits.dropWhile (· = '0')
        match rest with
        | [] => none
        | d :: _ =>
          if !Text.isAsciiDigit d then some .digits
          else if Text.mostDigits < rest.length then some (.tooLong rest.length)
          else some (.numeral place)

/-- The digits of a numeral, without its sign. -/
def unsigned : List Char → List Char
  | '-' :: digits => digits
  | digits => digits

mutual

/-- The first fault of an expression, if it has one. -/
def Term.fault? (place : Place) : Term → Option PageFault
  | .numeral written => digitsFault? place (unsigned written)
  | .call _ args => Term.faultOf? args
  | _ => none

/-- The first fault of the arguments of a call, if there is one. -/
def Term.faultOf? : List Term → Option PageFault
  | [] => none
  | t :: rest =>
    match t.fault? .call with
    | some fault => some fault
    | none => Term.faultOf? rest

end

/-- The value of a row of digits of any script. -/
def digitsValue (digits : List Char) : Nat :=
  digits.foldl (fun n c => 10 * n + (Text.decimalValue? c).getD 0) 0

/-- The number that a numeral is written for. -/
def numeralValue : List Char → Int
  | '-' :: digits => -(digitsValue digits : Int)
  | digits => digitsValue digits

/-- An open block while a page is nested. -/
structure OpenBlock where
  /-- The arms that are complete, the last one first. -/
  arms : List (Term × List Statement) := []
  /-- The test of the arm that is open; none in the last arm. -/
  test : Option Term
  /-- The statements before the block, the last one first. -/
  before : List Statement
deriving Repr

/-- The block as a statement once its open arm holds `body`. -/
def OpenBlock.close (b : OpenBlock) (body : List Statement) : Statement :=
  match b.test with
  | some t => .branch ((t, body) :: b.arms).reverse []
  | none => .branch b.arms.reverse body

/-- The fault of a division of blocks, or the block whose open arm has to be completed and its test. -/
def divided (tag : Stray) : List OpenBlock → Except PageFault (OpenBlock × Term × List OpenBlock)
  | [] => .error (.outside tag)
  | b :: outer =>
    match b.test with
    | some t => .ok (b, t, outer)
    | none => .error (.stray tag (outer.any (·.test.isSome)))

/-- The fault of an expression as an error. -/
def checked (place : Place) (t : Term) : Except PageFault Unit :=
  match t.fault? place with
  | some fault => .error fault
  | none => .ok ()

/-- Nests the tags of a page; `done` are the statements of the open arm, the last one first. -/
def nestFrom (blocks : List OpenBlock) (done : List Statement) : Page → Except PageFault (List Statement)
  | [] =>
    match blocks with
    | [] => .ok done.reverse
    | b :: _ => .error (.unclosed b.test.isNone)
  | .data s :: rest => nestFrom blocks (.data s :: done) rest
  | .output t :: rest => do
    checked .output t
    nestFrom blocks (.output t :: done) rest
  | .assign binding t :: rest => do
    checked .tag t
    nestFrom blocks (.assign binding t :: done) rest
  | .ifOpen t :: rest => do
    checked .tag t
    nestFrom ({ test := some t, before := done } :: blocks) [] rest
  | .elifOpen t :: rest => do
    let (b, test, outer) ← divided .elifOpen blocks
    checked .tag t
    nestFrom ({ b with arms := (test, done.reverse) :: b.arms, test := some t } :: outer) [] rest
  | .elseOpen :: rest => do
    let (b, test, outer) ← divided .elseOpen blocks
    nestFrom ({ b with arms := (test, done.reverse) :: b.arms, test := none } :: outer) [] rest
  | .endBlock :: rest =>
    match blocks with
    | [] => .error (.outside .endBlock)
    | b :: outer => nestFrom outer (b.close done.reverse :: b.before) rest

/-- The statements of a page. -/
def Page.nest (page : Page) : Except PageFault (List Statement) :=
  nestFrom [] [] page

end Stencil.Template
