import FirstClaim.Regex.Escape

/-!
# Bracketed classes

`readClass` reads a bracketed class with its nested classes and set operations. Classes that are
still open and left operands that wait for their right one are kept on a stack.
-/

set_option autoImplicit false

namespace FirstClaim.Regex

/-- Items of a class read so far, the last one first, with the span that they cover. -/
structure ItemRun where
  span : Span
  items : List ClassItem

namespace ItemRun

/-- No items, at the place reached. -/
def none (s : Source) : ItemRun :=
  ⟨s.here, []⟩

def push (u : ItemRun) (item : ClassItem) : ItemRun :=
  let start := if u.items.isEmpty then item.span.start else u.span.start
  ⟨⟨start, item.span.stop⟩, item :: u.items⟩

/-- The items as one item. -/
def toItem (u : ItemRun) : ClassItem :=
  match u.items with
  | [] => .empty u.span
  | [item] => item
  | items => .union u.span items.reverse

end ItemRun

/-- What a class that is being read waits for. -/
inductive ClassFrame where
  /-- The class that began at `span` is open inside of `outer`. -/
  | opened (outer : ItemRun) (span : Span) (negated : Bool)
  /-- An operation waits for its right operand. -/
  | operand (op : ClassOp) (lhs : ClassItem)

/-! ## Named ASCII classes -/

def asciiKind? (name : List Char) : Option AsciiKind :=
  let named : List (String × AsciiKind) := [("alnum", .alnum), ("alpha", .alpha),
    ("ascii", .ascii), ("blank", .blank), ("cntrl", .cntrl), ("digit", .digit),
    ("graph", .graph), ("lower", .lower), ("print", .print), ("punct", .punct),
    ("space", .space), ("upper", .upper), ("word", .word), ("xdigit", .xdigit)]
  named.lookup (String.ofList name)

/-- Reads a named class such as `[:alpha:]`, if one stands here. -/
def readAscii? (s : Source) : Option (ClassItem × Source) :=
  match s.rest with
  | '[' :: ':' :: rest =>
    let negated := rest.head? == some '^'
    let rest := if negated then rest.drop 1 else rest
    let name := rest.takeWhile (· != ':')
    match rest.dropWhile (· != ':') with
    | ':' :: ']' :: _ =>
      (asciiKind? name).map fun kind =>
        let s' := s.bumps (name.length + (if negated then 5 else 4))
        (.ascii (s'.spanFrom s.pos) kind negated, s')
    | _ => none
  | _ => none

/-! ## Items and ranges -/

/-- Reads one character or escape of a class. -/
def readClassAtom (s : Source) : Except Error (Atom × Source) :=
  match s.rest with
  | '\\' :: _ => readEscape s
  | c :: _ => .ok (.literal ⟨s.charSpan, c, false⟩, s.bump)
  | [] => .error (.at .classUnclosed s.here)

def unclosedClass (s : Source) : List ClassFrame → Error
  | [] => .at .classUnclosed s.here
  | .opened _ span _ :: _ => .at .classUnclosed span
  | .operand _ _ :: frames => unclosedClass s frames

/-- Reads a single item of a class or a range. -/
def readClassRange (frames : List ClassFrame) (s : Source) : Except Error (ClassItem × Source) := do
  let (first, s) ← readClassAtom s
  let s := s.skip
  if s.atEnd then .error (unclosedClass s frames)
  else if !s.startsWith '-' || s.peek? == some ']' || s.peek? == some '-' then
    .ok (← first.toClassItem, s)
  else
    let s := s.next
    if s.atEnd then .error (unclosedClass s frames)
    else
      let (last, s) ← readClassAtom s
      let span : Span := ⟨first.span.start, last.span.stop⟩
      let lo ← first.toBoundary
      let hi ← last.toBoundary
      if lo.char ≤ hi.char then .ok (.range span lo hi, s)
      else .error (.at .classRangeInvalid span)

/-! ## Opening and closing -/

/-- Reads hyphens at the beginning of a class, which are literal. The first argument bounds their
number. -/
def readHyphens (start : Position) : Nat → ItemRun → Source → Except Error (ItemRun × Source)
  | 0, u, s => .ok (u, s)
  | n + 1, u, s =>
    if s.startsWith '-' then
      let u := u.push (.literal ⟨s.charSpan, '-', false⟩)
      let s := s.next
      if s.atEnd then .error (.at .classUnclosed ⟨start, start⟩) else readHyphens start n u s
    else .ok (u, s)

/-- Reads the opening of a class: bracket, sign of negation and literal hyphens or bracket. Gives
the span of the opening, the sign and the items. -/
def readOpening (s : Source) : Except Error (Span × Bool × ItemRun × Source) := do
  let start := s.pos
  let s := s.next
  if s.atEnd then throw (.at .classUnclosed (s.spanFrom start))
  let negated := s.startsWith '^'
  let s := if negated then s.next else s
  if s.atEnd then throw (.at .classUnclosed (s.spanFrom start))
  let (u, s) ← readHyphens start s.rest.length (.none s) s
  if u.items.isEmpty && s.startsWith ']' then
    let u := u.push (.literal ⟨s.charSpan, ']', false⟩)
    let s := s.next
    if s.atEnd then throw (.at .classUnclosed (s.spanFrom start))
    return (s.spanFrom start, negated, u, s)
  return (s.spanFrom start, negated, u, s)

/-- Joins an item with the left operand that waits for it, if any. -/
def closeOperand (rhs : ClassItem) : List ClassFrame → ClassItem × List ClassFrame
  | .operand op lhs :: frames => (.binary ⟨lhs.span.start, rhs.span.stop⟩ op lhs rhs, frames)
  | frames => (rhs, frames)

def classOp? (s : Source) : Option ClassOp :=
  match s.rest with
  | '&' :: '&' :: _ => some .intersection
  | '-' :: '-' :: _ => some .difference
  | '~' :: '~' :: _ => some .symmetricDifference
  | _ => none

/-- Reads the items of a class up to the bracket that closes the outermost one. The first argument
bounds the number of items. -/
def readItems : Nat → ItemRun → List ClassFrame → Source → Except Error (Ast × Source)
  | 0, _, frames, s => .error (unclosedClass s frames)
  | n + 1, u, frames, s =>
    let s := s.skip
    if s.atEnd then .error (unclosedClass s frames)
    else if s.startsWith '[' then
      match if frames.isEmpty then none else readAscii? s with
      | some (item, s) => readItems n (u.push item) frames s
      | none => do
        let (span, negated, inner, s) ← readOpening s
        readItems n inner (.opened u span negated :: frames) s
    else if s.startsWith ']' then
      match closeOperand u.toItem frames with
      | (item, .opened outer span negated :: frames) =>
        let s := s.bump
        let span := s.spanFrom span.start
        if frames.isEmpty then .ok (.bracketed span negated item, s)
        else readItems n (outer.push (.bracketed span negated item)) frames s
      | (_, frames) => .error (unclosedClass s frames)
    else
      match classOp? s with
      | some op =>
        let s := s.bump.bump
        let (lhs, frames) := closeOperand u.toItem frames
        readItems n (.none s) (.operand op lhs :: frames) s
      | none => do
        let (item, s) ← readClassRange frames s
        readItems n (u.push item) frames s

/-- Reads a bracketed class, from its bracket on. -/
def readClass (s : Source) : Except Error (Ast × Source) :=
  readItems (s.rest.length + 1) (.none s) [] s

end FirstClaim.Regex
