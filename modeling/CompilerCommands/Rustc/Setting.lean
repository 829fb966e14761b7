import CompilerCommands.Text.Basic

/-!
# Settings

A setting is a key that may have a value: `key` or `key=value`. Codegen options and kinds of
emission are settings.
-/

namespace CompilerCommands.Rustc

structure Setting where
  key : String
  value : Option String := none
  deriving DecidableEq, Repr

namespace Setting

/-- Reads a setting. The first equals sign ends the key. -/
def ofString (s : String) : Setting :=
  let (key, value) := Text.cut '=' s.toList
  ⟨String.ofList key, value.map String.ofList⟩

def text (s : Setting) : String :=
  match s.value with
  | none => s.key
  | some value => s.key ++ "=" ++ value

theorem text_ofString (s : String) : (ofString s).text = s := by
  have h := Text.append_cut '=' s.toList
  apply String.toList_inj.1
  cases hv : (Text.cut '=' s.toList).2 <;> simp_all [ofString, text]

theorem ofString_text {s : Setting} (h : '=' ∉ s.key.toList) : ofString s.text = s := by
  obtain ⟨key, value⟩ := s
  cases value with
  | none => simp_all [ofString, text, Text.cut_of_not_mem]
  | some value =>
    have : (key ++ "=" ++ value).toList = key.toList ++ '=' :: value.toList := by simp
    simp_all [ofString, text, Text.cut_append_cons]

theorem not_mem_key_ofString (s : String) : '=' ∉ (ofString s).key.toList := by
  simp [ofString, Text.not_mem_cut_fst]

end Setting

end CompilerCommands.Rustc
