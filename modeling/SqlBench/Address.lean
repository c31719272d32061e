import SqlBench.Text.Cut

set_option autoImplicit false

namespace SqlBench.Address

def trimEndSlashes (s : List Char) : List Char :=
  (s.reverse.dropWhile fun c => c == '/').reverse

def trimSlashes (s : List Char) : List Char :=
  trimEndSlashes (s.dropWhile fun c => c == '/')

def joinChars (base : List Char) (segments : List (List Char)) : List Char :=
  segments.foldl (fun url segment => url ++ '/' :: trimSlashes segment) (trimEndSlashes base)

def join (base : String) (segments : List String) : String :=
  String.ofList (joinChars base.toList (segments.map String.toList))

end SqlBench.Address
