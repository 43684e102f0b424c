import Storyboard.Text.Quoted

/-!
# Answers of the file system

What there is on a disk is not known here.  A path may lead anywhere: below the current directory,
above it, or to another place altogether, if it starts with a slash.  The file system is asked about
it, and it may refuse for reasons of its own, which have a number and a wording.
-/

namespace Storyboard

structure Refusal where
  number : Nat
  reason : String
deriving DecidableEq, Repr

def Refusal.message (refusal : Refusal) (path : String) : String :=
  s!"[Errno {refusal.number}] {refusal.reason}: " ++ Text.quoted path

structure FileSystem where
  /-- Whether there is a file at a path.  That there is nothing is an answer, not a refusal. -/
  isFile : String → Except Refusal Bool
  /-- Why a file cannot be opened for writing; nothing if it can. -/
  refusal? : String → Option Refusal

end Storyboard
