import CompilerCommands.Command.Basic

/-!
# Reading written lines back

A line that is written from words holds exactly these words, so the text of a command holds its
executable and its arguments.
-/

namespace CompilerCommands

namespace Shell

theorem map_ofList_toList (words : List String) :
    (words.map String.toList).map String.ofList = words := by
  simp [List.map_map, Function.comp_def]

theorem words_quote (args : List String) : words (quote args) = .ok args := by
  rw [words, quote, String.toList_ofList, wordList_quoteList]
  simp only [Except.map, map_ofList_toList]

end Shell

theorem tokenize_quote_ok (args : List String) : tokenize (Shell.quote args) = .ok args := by
  rw [tokenize, Shell.words_quote]

/-- Written words are read back, and so is the line of any command: its executable and the arguments
it has now, whatever became of its flags. -/
theorem tokenize_written :
    (∀ args : List String, tokenize (Shell.quote args) = .ok args) ∧
      ∀ command : Command, tokenize command.text = .ok (command.call.executable :: command.args) :=
  ⟨tokenize_quote_ok, fun _ => tokenize_quote_ok _⟩

end CompilerCommands
