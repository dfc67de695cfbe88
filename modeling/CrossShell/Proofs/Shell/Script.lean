import CrossShell.Shell

/-!
The text of a script, line by line: the comment and one line for every variable, each ended by a
line feed. Values stand between quotes.
-/

set_option autoImplicit false

namespace CrossShell.Shell

theorem toList_singleQuoted (quoteMark : List Char) (value : String) :
    (singleQuoted quoteMark value).toList
      = '\'' :: (value.toList.flatMap fun c => if c = '\'' then quoteMark else [c]) ++ ['\''] :=
  String.toList_ofList

theorem toList_lines (first : String) (rest : List String) :
    ("\n".intercalate (first :: rest) ++ "\n").toList
      = first.toList ++ ['\n'] ++ rest.flatMap fun line => line.toList ++ ['\n'] := by
  have hfeed : "\n".toList = ['\n'] := by decide
  induction rest generalizing first with
  | nil => simp [hfeed]
  | cons line rest ih =>
    rw [String.intercalate_cons_cons, String.append_assoc, String.toList_append, ih,
      List.flatMap_cons, String.toList_append, hfeed, List.append_assoc, List.append_assoc]

theorem toList_exportScript (s : Shell) (header : String) (env : SortedMap String) :
    (s.exportScript header env).toList
      = '#' :: ' ' :: header.toList ++ ['\n']
        ++ env.entries.flatMap fun e => (s.exportLine e.1 e.2).toList ++ ['\n'] := by
  have hsharp : "# ".toList = ['#', ' '] := by decide
  unfold exportScript
  rw [toList_lines, String.toList_append, hsharp, List.flatMap_map]
  rfl

end CrossShell.Shell
