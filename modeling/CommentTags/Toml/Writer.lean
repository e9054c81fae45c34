import CommentTags.Toml.Reader

/-!
Writing a document, item by item. Headers stand apart from what comes before them, and a list of
more than one element has a line for each.
-/
namespace CommentTags.Toml

/-- A key that is not bare takes the first of the one-line styles that suits it. -/
def keyText (key : Text) : Text :=
  if !key.isEmpty && key.all isBare then key
  else if Style.basic.suits key then Style.basic.write key
  else if Style.literal.suits key then Style.literal.write key
  else Style.basic.write key

def pathText (path : List Text) : Text :=
  ['.'].intercalate (path.map keyText)

def integerText (i : Int) : Text :=
  let digits := Nat.toDigits 10 i.natAbs
  if i < 0 then '-' :: digits else digits

def indent : Text := List.replicate 4 ' '

def listText : List Text → Text
  | [] => ['[', ']']
  | [v] => '[' :: v ++ [']']
  | vs => '[' :: '\n' :: vs.flatMap (fun v => indent ++ v ++ [',', '\n']) ++ [']']

mutual

def valueText : Value → Text
  | .string t => quoted t
  | .integer i => integerText i
  | .float written => written
  | .boolean b => (if b then "true" else "false").toList
  | .dateTime written => written
  | .array _ elements => listText (valueTexts elements)
  | .table _ fields => "\x7b ".toList ++ ", ".toList.intercalate (fieldTexts fields) ++ " \x7d".toList

def valueTexts : List Value → List Text
  | [] => []
  | v :: vs => valueText v :: valueTexts vs

def fieldTexts : List (Text × Value) → List Text
  | [] => []
  | (key, v) :: fs => (keyText key ++ " = ".toList ++ valueText v) :: fieldTexts fs

end

def itemText : Item → Text
  | .header path isElement =>
    if isElement then "[[".toList ++ pathText path ++ "]]\n".toList
    else '[' :: pathText path ++ "]\n".toList
  | .pair path v => pathText path ++ " = ".toList ++ valueText v ++ ['\n']

def Item.isHeader : Item → Bool
  | .header _ _ => true
  | .pair _ _ => false

/-- The items after the first one. -/
def restText (items : List Item) : Text :=
  items.flatMap fun item => if item.isHeader then '\n' :: itemText item else itemText item

def write : List Item → Text
  | [] => []
  | item :: items => itemText item ++ restText items

end CommentTags.Toml
