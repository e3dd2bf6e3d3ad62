import Accessors.Files.Access

/-!
# Saving a file

A file is saved by writing a sibling, giving it the mode of the file and renaming it over the file,
so that the file never has a part of the new text only. When a step fails, the sibling is removed.
-/

namespace Accessors.Files.Tree

/-- What the name of the sibling adds to the name of the file. -/
def siblingSuffix : String := ".accessor-gen.tmp"

/-- The location of the sibling that is written first. -/
def sibling (target : Location) : Location :=
  target.dropLast ++ [target.getLast?.getD "" ++ siblingSuffix]

/-- Takes steps until one fails: whether all succeeded, and the tree after the last that did. -/
def perform (tree : Tree) : List (Tree → Except Fault Tree) → Except Fault Unit × Tree
  | [] => (.ok (), tree)
  | step :: steps =>
    match step tree with
    | .ok tree => tree.perform steps
    | .error fault => (.error fault, tree)

/-- The steps that replace a file: write its sibling, give it the mode, and rename it. -/
def replacement (target : Location) (bytes : ByteArray) (mode : Mode) :
    List (Tree → Except Fault Tree) :=
  [fun tree => do tree.writeAt bytes (← tree.placeOf? (sibling target) true),
   fun tree => do tree.setModeAt mode (← tree.placeOf? (sibling target)),
   fun tree => tree.rename (sibling target) target]

/-- The tree without what stands under a name, if that is a file or a link. -/
def discard (tree : Tree) (location : Location) : Tree :=
  match tree.remove location with
  | .ok tree => tree
  | .error _ => tree

/-- Replaces the bytes of a file: whether that succeeded, and the tree afterwards. -/
def save (tree : Tree) (target : Location) (bytes : ByteArray) : Except Fault Unit × Tree :=
  match tree.placeOf? target >>= tree.modeAt? with
  | .error fault => (.error fault, tree)
  | .ok mode =>
    match tree.perform (replacement target bytes mode) with
    | (.ok (), tree) => (.ok (), tree)
    | (.error fault, tree) => (.error fault, tree.discard (sibling target))

end Accessors.Files.Tree
