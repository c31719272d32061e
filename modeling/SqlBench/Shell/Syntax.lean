set_option autoImplicit false

namespace SqlBench.Shell

-- A part of a word. What stands in quotes is not taken apart at blanks.
inductive Piece where
  | literal (text : List Char)
  | parameter (name : String) (fallback : Option (List Char)) (isQuoted : Bool)
  | output (command : List Char) (isQuoted : Bool)
  deriving DecidableEq, Repr

abbrev Word := List Piece

inductive Redirection where
  | append (stream : Nat) (target : Word)
  | overwrite (stream : Nat) (target : Word)
  | input (source : Word)
  | same (stream other : Nat)
  deriving DecidableEq, Repr

structure Simple where
  assignments : List (String × Word)
  words : List Word
  redirections : List Redirection
  deriving DecidableEq, Repr

inductive Command where
  | nothing
  | simple (s : Simple)
  | pipe (a b : Command)
  | negated (a : Command)
  | both (a b : Command)
  | either (a b : Command)
  | sequence (a b : Command)
  -- Commands in brackets; isolated ones change nothing outside.
  | group (isIsolated : Bool) (body : Command) (redirections : List Redirection)
  | branch (condition yes no : Command) (redirections : List Redirection)
  deriving Repr, Inhabited

end SqlBench.Shell
