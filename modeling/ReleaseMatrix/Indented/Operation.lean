import ReleaseMatrix.Indented.Layout

namespace ReleaseMatrix.Indented

namespace Number

/-- The bits that both of two whole numbers have. Negative ones have all bits beyond their own. -/
def bitAnd (a b : Int) : Int :=
  if 0 ≤ a then
    if 0 ≤ b then (a.toNat &&& b.toNat : Nat) else (a.toNat - (a.toNat &&& (-b - 1).toNat) : Nat)
  else if 0 ≤ b then (b.toNat - (b.toNat &&& (-a - 1).toNat) : Nat)
  else -((((-a - 1).toNat ||| (-b - 1).toNat : Nat) : Int)) - 1

def bitNot (a : Int) : Int := -a - 1

def bitOr (a b : Int) : Int :=
  bitNot (bitAnd (bitNot a) (bitNot b))

def bitXor (a b : Int) : Int :=
  bitAnd (bitOr a b) (bitNot (bitAnd a b))

end Number

/-- The names of the functions of a class that do what an operator does, from the left and from the right. -/
def BinaryOperator.functions (op : BinaryOperator) : String × String :=
  let name := match op with
    | add => "add"
    | subtract => "sub"
    | multiply => "mul"
    | divide => "truediv"
    | floorDivide => "floordiv"
    | remainder => "mod"
    | power => "pow"
    | shiftLeft => "lshift"
    | shiftRight => "rshift"
    | bitAnd => "and"
    | bitOr => "or"
    | bitXor => "xor"
    | matrixMultiply => "matmul"
  ("__" ++ name ++ "__", "__r" ++ name ++ "__")

/-- A path with another one after it. One that starts at the root stands for itself. -/
def joinPath (a b : String) : String :=
  if b.startsWith "/" || a = "" then b
  else if a.endsWith "/" then a ++ b
  else a ++ "/" ++ b

/-- A path without what does not matter in it. -/
def tidyPath (s : String) : String :=
  let steps := (s.splitOn "/").filter fun step => step ≠ "" && step ≠ "."
  let root := if s.startsWith "//" && !s.startsWith "///" then "//" else if s.startsWith "/" then "/" else ""
  if root = "" && steps.isEmpty then "." else root ++ "/".intercalate steps

def joinPaths (a b : String) : String :=
  tidyPath (if b.startsWith "/" then b else a ++ "/" ++ b)

namespace RunM

variable (r : Runner)

/-- The result of an operator on two numbers. -/
def numberResult (op : BinaryOperator) (a b : Number) : RunM (Option Value) := do
  let zero (message : String) : RunM (Option Value) := raise "ZeroDivisionError" message
  match a, b with
  | .whole m, .whole n =>
    match op with
    | .add => pure (some (.whole (m + n)))
    | .subtract => pure (some (.whole (m - n)))
    | .multiply => pure (some (.whole (m * n)))
    | .divide =>
      if n = 0 then zero "division by zero"
      else pure (some (.fraction (Number.ofRatio (if n < 0 then -m else m) n.natAbs)))
    | .floorDivide => if n = 0 then zero "integer division or modulo by zero" else pure (some (.whole (m.fdiv n)))
    | .remainder => if n = 0 then zero "integer modulo by zero" else pure (some (.whole (m.fmod n)))
    | .power =>
      if 0 ≤ n then pure (some (.whole (m.pow n.toNat)))
      else if m = 0 then zero "0.0 cannot be raised to a negative power"
      else
        let d := m.pow n.natAbs
        pure (some (.fraction (Number.ofRatio (if d < 0 then -1 else 1) d.natAbs)))
    | .shiftLeft =>
      if n < 0 then raise "ValueError" "negative shift count" else pure (some (.whole (m * (Nat.pow 2 n.toNat))))
    | .shiftRight =>
      if n < 0 then raise "ValueError" "negative shift count" else pure (some (.whole (m.fdiv (Nat.pow 2 n.toNat))))
    | .bitAnd => pure (some (.whole (Number.bitAnd m n)))
    | .bitOr => pure (some (.whole (Number.bitOr m n)))
    | .bitXor => pure (some (.whole (Number.bitXor m n)))
    | .matrixMultiply => pure none
  | a, b =>
    let x := a.toDecimal
    let y := b.toDecimal
    match op with
    | .add => pure (some (.fraction (Number.add x y)))
    | .subtract => pure (some (.fraction (Number.add x (Number.negate y))))
    | .multiply => pure (some (.fraction (Number.multiply x y)))
    | .divide => if Number.isZero y then zero "float division by zero" else pure (some (.fraction (Number.divide x y)))
    | .floorDivide =>
      if Number.isZero y then zero "float floor division by zero"
      else pure (some (.fraction (Number.divideFloor x y).1))
    | .remainder => if Number.isZero y then zero "float modulo" else pure (some (.fraction (Number.divideFloor x y).2))
    | .power =>
      match Number.ratio? y with
      | some (n, 1) =>
        if 0 ≤ n then pure (some (.fraction (Number.powerOf x n.toNat)))
        else if Number.isZero x then zero "0.0 cannot be raised to a negative power"
        else pure (some (.fraction (Number.divide (.finite false ⟨1, 1⟩) (Number.powerOf x n.natAbs))))
      | _ => pure (some (.fraction .undefined))
    | _ => pure none

/-- A series of values so many times. -/
def repeated {α : Type} (items : List α) (n : Int) : List α :=
  (List.replicate n.toNat items).flatten

/-- The result of an operator on values of one kind, if they have it. -/
def plainResult (op : BinaryOperator) (a b : Value) : RunM (Option Value) := do
  match op, a, b with
  | .add, .text s, .text t => pure (some (.text (s ++ t)))
  | .add, .text _, b =>
    raise "TypeError" ("can only concatenate str (not \"" ++ (← kindName b) ++ "\") to str")
  | .add, .bytes s, .bytes t => pure (some (.bytes (s ++ t)))
  | .add, .bytes _, b => raise "TypeError" ("can't concat " ++ (← kindName b) ++ " to bytes")
  | .add, .tuple s, .tuple t => pure (some (.tuple (s ++ t)))
  | .add, .tuple _, b =>
    raise "TypeError" ("can only concatenate tuple (not \"" ++ (← kindName b) ++ "\") to tuple")
  | .remainder, .text s, b => return some (.text (← percentText r false s b))
  | .remainder, .bytes s, b => return some (.bytes (← percentText r true s b))
  | .multiply, .text s, b => many b fun n => .text (String.ofList (repeated s.toList n))
  | .multiply, a, .text s => many a fun n => .text (String.ofList (repeated s.toList n))
  | .multiply, .bytes s, b => many b fun n => .bytes (String.ofList (repeated s.toList n))
  | .multiply, .tuple s, b => many b fun n => .tuple (repeated s n)
  | .divide, .path s, .text t => pure (some (.path (joinPaths s t)))
  | .divide, .path s, .path t => pure (some (.path (joinPaths s t)))
  | .divide, .text s, .path t => pure (some (.path (joinPaths s t)))
  | op, .object i, b => do
    match op, ← objectAt i with
    | .multiply, .list items =>
      match b.whole? with
      | some n => return some (← makeList (repeated items.toList n))
      | none => raise "TypeError" ("can't multiply sequence by non-int of type '" ++ (← kindName b) ++ "'")
    | op, first =>
      match b with
      | .object j => do
        match op, first, ← objectAt j with
        | .add, .list as, .list bs => return some (← makeList (as ++ bs).toList)
        | .bitOr, .table kind entries missing, .table _ more _ =>
          let all ← more.foldlM (fun all (k, v) => withEntry r all k v) entries
          return some (← make (.table kind all missing))
        | op, .set isFrozen as, .set _ bs =>
          let inBoth ← as.filterM fun v => within r depth bs v
          let onlyFirst ← as.filterM fun v => return !(← within r depth bs v)
          let onlySecond ← bs.filterM fun v => return !(← within r depth as v)
          let made (items : List Value) : RunM (Option Value) := return some (← make (.set isFrozen items))
          match op with
          | .bitOr => made (as ++ onlySecond)
          | .bitAnd => made inBoth
          | .subtract => made onlyFirst
          | .bitXor => made (onlyFirst ++ onlySecond)
          | _ => pure none
        | .add, .list _, _ =>
          raise "TypeError" ("can only concatenate list (not \"" ++ (← kindName b) ++ "\") to list")
        | _, _, _ => pure none
      | b =>
        match op, first with
        | .add, .list _ =>
          raise "TypeError" ("can only concatenate list (not \"" ++ (← kindName b) ++ "\") to list")
        | _, _ => pure none
  | .multiply, a, .object j => do
    match a.whole?, ← objectAt j with
    | some n, .list items => return some (← makeList (repeated items.toList n))
    | _, _ => pure none
  | .multiply, a, .tuple items => many a fun n => .tuple (repeated items n)
  | .multiply, a, .bytes s => many a fun n => .bytes (String.ofList (repeated s.toList n))
  | _, _, _ => pure none
where
  many (v : Value) (build : Int → Value) : RunM (Option Value) := do
    match v.whole? with
    | some n => pure (some (build n))
    | none => raise "TypeError" ("can't multiply sequence by non-int of type '" ++ (← kindName v) ++ "'")

/-- The result of an operator, whose sign may be that of a change. -/
def binary (op : BinaryOperator) (sign : String) (a b : Value) : RunM Value := do
  let (left, right) := op.functions
  match ← special? a left with
  | some f => r.call f ⟨[a, b], []⟩
  | none =>
    match ← special? b right with
    | some f => r.call f ⟨[b, a], []⟩
    | none =>
      let result? ← match a, b, a.number?, b.number? with
        | .truth x, .truth y, _, _ =>
          match op with
          | .bitAnd => pure (some (Value.truth (x && y)))
          | .bitOr => pure (some (Value.truth (x || y)))
          | .bitXor => pure (some (Value.truth (x != y)))
          | _ => numberResult op (.whole (if x then 1 else 0)) (.whole (if y then 1 else 0))
        | _, _, some x, some y => numberResult op x y
        | _, _, _, _ => plainResult r op a b
      match result? with
      | some v => pure v
      | none =>
        raise "TypeError" ("unsupported operand type(s) for " ++ sign ++ ": '" ++ (← kindName a) ++ "' and '" ++
          (← kindName b) ++ "'")

/-- Changes a value by an operator: a list takes what is added to it, and other values make new ones. -/
def augment (op : BinaryOperator) (a b : Value) : RunM Value := do
  let (left, _) := op.functions
  let own := "__i" ++ (String.ofList (left.toList.drop 2))
  match ← special? a own with
  | some f => r.call f ⟨[a, b], []⟩
  | none =>
    let sign := (if op = .power then "**" else op.sign) ++ "="
    match op, a with
    | .add, .object i => do
      match ← objectAt i with
      | .list _ =>
        let added ← itemsOf r b
        match ← objectAt i with
        | .list items => setObject i (.list (items ++ added.toArray))
        | _ => pure ()
        pure a
      | _ => binary r op sign a b
    | op, .object i => do
      match ← objectAt i with
      | .set false _ | .table .. =>
        let result ← binary r op sign a b
        match result with
        | .object j =>
          setObject i (← objectAt j)
          pure a
        | v => pure v
      | _ => binary r op sign a b
    | _, _ => binary r op sign a b

/-- The result of an operator on one value. -/
def unary (op : UnaryOperator) (v : Value) : RunM Value := do
  let refuse (sign : String) : RunM Value := do
    raise "TypeError" ("bad operand type for unary " ++ sign ++ ": '" ++ (← kindName v) ++ "'")
  match op with
  | .not => return .truth !(← isTrue r v)
  | .negate =>
    match v.number? with
    | some (.whole n) => pure (.whole (-n))
    | some (.fraction d) => pure (.fraction (Number.negate d))
    | none =>
      match ← special? v "__neg__" with
      | some f => r.call f ⟨[v], []⟩
      | none => refuse "-"
  | .keep =>
    match v.number? with
    | some x => pure x.toValue
    | none => refuse "+"
  | .invert =>
    match v.whole? with
    | some n => pure (.whole (Number.bitNot n))
    | none => refuse "~"

/-- The result of a comparison. -/
def compare (c : Comparison) (a b : Value) : RunM Value := do
  match c with
  | .equal => return .truth (← areEqual r a b)
  | .different =>
    match ← special? a "__ne__" with
    | some f => r.call f ⟨[a, b], []⟩
    | none => return .truth !(← areEqual r a b)
  | .same => pure (.truth (a.isSame b))
  | .notSame => pure (.truth !(a.isSame b))
  | .isIn => return .truth (← contains r b a)
  | .isNotIn => return .truth !(← contains r b a)
  | .less =>
    sets a b (fun as bs => do return as.length < bs.length && (← as.allM (within r depth bs))) "<" "__lt__" (· = .lt)
  | .lessEqual => sets a b (fun as bs => as.allM (within r depth bs)) "<=" "__le__" (· ≠ .gt)
  | .greater =>
    sets a b (fun as bs => do return bs.length < as.length && (← bs.allM (within r depth as))) ">" "__gt__" (· = .gt)
  | .greaterEqual => sets a b (fun as bs => bs.allM (within r depth as)) ">=" "__ge__" (· ≠ .lt)
where
  /-- Sets compare by what they hold, and other values by their order. -/
  sets (a b : Value) (test : List Value → List Value → RunM Bool) (sign name : String) (holds : Ordering → Bool) :
      RunM Value := do
    match a, b with
    | .object i, .object j =>
      match ← objectAt i, ← objectAt j with
      | .set _ as, .set _ bs => return .truth (← test as bs)
      | _, _ => isLess r a b sign name holds
    | a, b => isLess r a b sign name holds

end RunM

end ReleaseMatrix.Indented
