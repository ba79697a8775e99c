import TreeSchema.Pattern.Class

/-!
Pattern flags: what may be set for a whole pattern or for a part of one.
-/

namespace TreeSchema.Pattern

inductive Flag | ignoreCase | locale | multiline | dotAll | verbose | ascii | template | unicode
  deriving DecidableEq

namespace Flag

def ofChar? : Char → Option Flag
  | 'i' => some .ignoreCase
  | 'L' => some .locale
  | 'm' => some .multiline
  | 's' => some .dotAll
  | 'x' => some .verbose
  | 'a' => some .ascii
  | 't' => some .template
  | 'u' => some .unicode
  | _ => none

/-- The flags that choose the character classes, of which one holds at a time. -/
def isType : Flag → Bool
  | .ascii => true
  | .locale => true
  | .unicode => true
  | _ => false

end Flag

/-- What holds for a part of a pattern. -/
structure Flags where
  ignoreCase : Bool
  multiline : Bool
  dotAll : Bool
  verbose : Bool
  ascii : Bool

def Flags.none : Flags :=
  ⟨false, false, false, false, false⟩

def Flags.change (f : Flags) (on off : List Flag) : Flags :=
  let set (flag : Flag) (was : Bool) := (was || on.contains flag) && !off.contains flag
  { ignoreCase := set .ignoreCase f.ignoreCase
    multiline := set .multiline f.multiline
    dotAll := set .dotAll f.dotAll
    verbose := set .verbose f.verbose
    ascii := on.contains .ascii || (f.ascii && !on.contains .unicode) }

def Flags.folding (f : Flags) : Folding :=
  if !f.ignoreCase then .exact else if f.ascii then .ascii else .wide

end TreeSchema.Pattern
