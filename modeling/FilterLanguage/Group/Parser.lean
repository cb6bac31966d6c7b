import FilterLanguage.Error
import FilterLanguage.Group.Basic
import FilterLanguage.Token.Feed

/-!
# Parsing

The grammar of a filter is

    Group     := Element (Connective Element)*
    Element   := Statement | "(" Group ")"
    Statement := Operand Word Operand?

and a filter is a group or empty.  A statement is unary when its operator is
followed by a connective, by `)` or by the end of input.

The parser looks one lexeme ahead and stops at the first error.  Its functions
return the feed they leave with a bound on its size, on which the recursion
descends.
-/

namespace FilterLanguage

def Token.operand? : Token → Option Operand
  | .literal value => some (.literal value)
  | .reference name => some (.reference name)
  | _ => none

def Token.word? : Token → Option String
  | .reference name => some name
  | _ => none

/-- The token ends a statement that has no right operand so far. -/
def Token.endsStatement : Token → Bool
  | .connective _ | .groupEnd => true
  | _ => false

namespace Parser

/-- How deep groups may be nested when nothing else is asked for. -/
def defaultLimit : Nat := 256

/-- What a parser function leaves: a value and a feed of lesser size. -/
abbrev Taken (α : Type) (feed : Feed) := Except Error (α × feed.Later)

def rightOperand (feed : Feed) :
    Except ParseError (Option Operand × feed.AtMost) :=
  match feed.look with
  | .error e => .error e
  | .ok (.ended after) => .ok (none, after)
  | .ok (.lexeme found ⟨before, hbefore⟩ _) =>
    if found.token.endsStatement then .ok (none, ⟨before, hbefore⟩)
    else
      match before.expect .expectedOperand Token.operand? with
      | .error e => .error e
      | .ok (right, ⟨after, hafter⟩) => .ok (some right, ⟨after, by omega⟩)

def statement (feed : Feed) : Except ParseError (Statement × feed.Later) :=
  match feed.expect .expectedOperand Token.operand? with
  | .error e => .error e
  | .ok (left, ⟨feed₁, h₁⟩) =>
    match feed₁.expect .expectedOperator Token.word? with
    | .error e => .error e
    | .ok (operator, ⟨feed₂, h₂⟩) =>
      match rightOperand feed₂ with
      | .error e => .error e
      | .ok (right, ⟨feed₃, h₃⟩) =>
        .ok (⟨left, operator, right⟩, ⟨feed₃, by omega⟩)

/-- The error of a group opened at `start` that nothing closes. -/
def unclosed (start : Nat) (feed : Feed) : ParseError :=
  ⟨.unclosedGroup, ⟨start, feed.limit⟩,
    ParseErrorKind.unclosedGroup.message ++ ", expected `)`"⟩

/-- Takes the `)` of a group opened at `start`. -/
def close (start : Nat) (feed : Feed) : Except ParseError feed.Later :=
  match hbump : feed.bump with
  | .error e => .error e
  | .ok (none, after) => .error (unclosed start after)
  | .ok (some found, after) =>
    if found.token = .groupEnd then .ok ⟨after, Feed.bump_some_size hbump⟩
    else .error (unclosed start after)

/-- Inside `depth` groups no other may be opened. -/
def reached (limit : Option Nat) (depth : Nat) : Bool :=
  match limit with
  | some limit => limit ≤ depth
  | none => false

mutual

/-- An element inside `depth` groups, and what follows it up to the end of its
group. -/
def elements (limit : Option Nat) (depth : Nat) (feed : Feed) :
    Taken (Group Statement) feed :=
  match feed.look with
  | .error e => .error (.parse e)
  | .ok (.ended ⟨after, _⟩) =>
    .error (.parse (after.unexpected .expectedOperand none))
  | .ok (.lexeme found ⟨before, hbefore⟩ ⟨behind, hbehind⟩) =>
    if found.token = .groupBegin then
      if reached limit depth then .error .recursionLimitExceeded
      else
        match elements limit (depth + 1) behind with
        | .error e => .error e
        | .ok (inner, ⟨filled, hfilled⟩) =>
          match close found.span.start filled with
          | .error e => .error (.parse e)
          | .ok ⟨closed, hclosed⟩ =>
            match continuation limit depth closed with
            | .error e => .error e
            | .ok (rest, ⟨last, hlast⟩) =>
              .ok (.nested inner rest, ⟨last, by omega⟩)
    else
      match statement before with
      | .error e => .error (.parse e)
      | .ok (s, ⟨stated, hstated⟩) =>
        match continuation limit depth stated with
        | .error e => .error e
        | .ok (rest, ⟨last, hlast⟩) =>
          .ok (.statement s rest, ⟨last, by omega⟩)
termination_by feed.size
decreasing_by all_goals omega

/-- What follows an element: nothing before `)` and at the end of input, else a
connective and more elements. -/
def continuation (limit : Option Nat) (depth : Nat) (feed : Feed) :
    Except Error (Group Statement × feed.AtMost) :=
  match feed.look with
  | .error e => .error (.parse e)
  | .ok (.ended after) => .ok (.empty, after)
  | .ok (.lexeme found ⟨before, hbefore⟩ ⟨behind, hbehind⟩) =>
    match found.token with
    | .connective c =>
      match elements limit depth behind with
      | .error e => .error e
      | .ok (rest, ⟨last, hlast⟩) =>
        .ok (.connective c rest, ⟨last, by omega⟩)
    | .groupEnd => .ok (.empty, ⟨before, hbefore⟩)
    | _ => .error (.parse (before.unexpected .expectedConnective (some found)))
termination_by feed.size
decreasing_by all_goals omega

end

def root (limit : Option Nat) (feed : Feed) :
    Except Error (Group Statement) :=
  match feed.look with
  | .error e => .error (.parse e)
  | .ok (.ended _) => .ok .empty
  | .ok (.lexeme first ⟨before, _⟩ _) =>
    if first.token = .groupEnd then
      .error (.parse (.ofKind .unmatchedGroupEnd first.span))
    else
      match elements limit 0 before with
      | .error e => .error e
      | .ok (group, ⟨last, _⟩) =>
        match last.bump with
        | .error e => .error (.parse e)
        | .ok (none, _) => .ok group
        | .ok (some extra, _) =>
          .error (.parse (.ofKind .unmatchedGroupEnd extra.span))

end Parser

/-- Parses a filter in which groups are nested to a limited depth, or without a
limit. -/
def Group.parseWithin (limit : Option Nat) (text : String) :
    Except Error (Group Statement) :=
  Parser.root limit (Feed.ofText text)

/-- Parses a filter within the default limit. -/
def Group.parse (text : String) : Except Error (Group Statement) :=
  Group.parseWithin (some Parser.defaultLimit) text

end FilterLanguage
