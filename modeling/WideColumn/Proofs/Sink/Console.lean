import WideColumn.Proofs.Command.Run
import WideColumn.Workspace

/-!
# A printer that fills up

A printer with little room takes each output whole as long as there is room for it, then the
beginning of one more, and then nothing. What is printed is therefore the beginning of all outputs
one behind the other, wherever the room ends. `Prints` says so of files that were handed to the
console, and one more file keeps it.

Main definitions: `Console.Takes`, `Console.Prints`.
Main result: `Console.Prints.emit`.
-/

namespace WideColumn.Console

/-- The bytes that a file has on the console. -/
def bytes (highlight colors : Bool) (file : GeneratedFile) : List UInt8 :=
  Text.utf8 (Highlight.highlight file.language highlight colors file.content ++ "\n").toList

/-- Every file has a newline at least. -/
theorem bytes_pos (highlight colors : Bool) (file : GeneratedFile) :
    0 < (bytes highlight colors file).length := by
  rw [bytes, String.toList_append, Text.utf8_append, List.length_append]
  exact Nat.lt_of_lt_of_le (by decide) (Nat.le_add_left _ _)

/-! ## Outputs and room -/

/-- Of some outputs one behind the other, the first ones end within the room, and no others. -/
structure Takes (outputs : List (List UInt8)) (room count : Nat) : Prop where
  le : count ≤ outputs.length
  iff : ∀ i < outputs.length, i < count ↔ (outputs.take (i + 1)).flatten.length ≤ room

namespace Takes

variable {outputs more : List (List UInt8)} {room count : Nat}

theorem all (h : outputs.flatten.length ≤ room) : Takes outputs room outputs.length where
  le := Nat.le_refl _
  iff i hi := by
    have parts := congrArg (fun l => l.flatten.length) (List.take_append_drop (i + 1) outputs)
    simp only [List.flatten_append, List.length_append] at parts
    omega

/-- All outputs are taken whole if they have room together. -/
theorem eq_length_iff (h : Takes outputs room count) :
    count = outputs.length ↔ outputs.flatten.length ≤ room := by
  constructor
  · intro hall
    cases hlen : outputs.length with
    | zero => simp [List.length_eq_zero_iff.mp hlen]
    | succ last =>
      have ends := (h.iff last (by omega)).mp (by omega)
      rwa [← hlen, List.take_length] at ends
  · intro fits
    cases hlen : outputs.length with
    | zero => exact Nat.le_zero.mp (hlen ▸ h.le)
    | succ last =>
      have ends := (h.iff last (by omega)).mpr (by rwa [← hlen, List.take_length])
      have le := h.le
      omega

/-- Behind an output that does not end within the room no other does. -/
theorem append (h : Takes outputs room count)
    (beyond : ∀ next ∈ more.head?, room < outputs.flatten.length + next.length) :
    Takes (outputs ++ more) room count where
  le := by
    rw [List.length_append]
    exact Nat.le_add_right_of_le h.le
  iff i hi := by
    rcases Nat.lt_or_ge i outputs.length with inside | behind
    · rw [List.take_append_of_le_length inside]
      exact h.iff i inside
    · have le := h.le
      rw [List.length_append] at hi
      obtain ⟨next, rest, rfl⟩ := List.exists_cons_of_length_pos (l := more) (by omega)
      obtain ⟨j, rfl⟩ := Nat.exists_eq_add_of_le behind
      have far := beyond next rfl
      rw [Nat.add_assoc, List.take_length_add_append, List.take_succ_cons]
      simp only [List.flatten_append, List.flatten_cons, List.length_append]
      omega

end Takes

/-! ## One file -/

variable {highlight colors : Bool}

/-- A console on the printer of a workspace. -/
def sink (highlight colors : Bool) : Sink (StateM Workspace) :=
  .console Workspace.host highlight colors

/-- The workspace after a printer with the room was given an output. -/
def printing (w : Workspace) (room : Nat) (output : List UInt8) : Workspace :=
  { w with printed := w.printed ++ output.take room, room := some (room - output.length) }

/-- The printer takes the beginning of an output, and is content if that is all of it. -/
theorem printBytes_apply {w : Workspace} {room : Nat} (hroom : w.room = some room)
    (output : List UInt8) :
    Workspace.printBytes output w =
      (if output.length ≤ room then .ok () else .error Workspace.printerFull,
        printing w room output) := by
  cases w
  cases hroom
  rfl

theorem emit_apply {w : Workspace} {room : Nat} (hroom : w.room = some room)
    (file : GeneratedFile) :
    (sink highlight colors).emit file w =
      (if (bytes highlight colors file).length ≤ room then .ok .printed
        else .error (.print file.path Workspace.printerFull),
        printing w room (bytes highlight colors file)) := by
  unfold sink Sink.console
  dsimp only
  rw [bind_apply, show Workspace.host.print
    (Highlight.highlight file.language highlight colors file.content ++ "\n") =
      Workspace.printBytes (bytes highlight colors file) from rfl, printBytes_apply hroom]
  split <;> rfl

/-! ## Many files -/

/-- Files were handed to the console of a printer with the room, which took so many of them whole.
-/
structure Prints (highlight colors : Bool) (files : List GeneratedFile) (room count : Nat)
    (before after : Workspace) : Prop where
  takes : Takes (files.map (bytes highlight colors)) room count
  printed : after.printed =
    before.printed ++ (files.map (bytes highlight colors)).flatten.take room
  left : after.room = some (room - (files.map (bytes highlight colors)).flatten.length)
  tree : after.tree = before.tree

namespace Prints

variable {files more : List GeneratedFile} {room count : Nat} {before after : Workspace}

theorem nil (h : before.room = some room) :
    Prints highlight colors [] room 0 before before where
  takes := .all (Nat.zero_le _)
  printed := by simp
  left := h
  tree := rfl

/-- What the user is shown beside the output does not matter. -/
theorem shown (h : Prints highlight colors files room count before after) (events : List Event) :
    Prints highlight colors files room count before { after with events } where
  takes := h.takes
  printed := h.printed
  left := h.left
  tree := h.tree

/-- Nothing is printed of files behind one that did not end within the room. -/
theorem append (h : Prints highlight colors files room count before after)
    (beyond : room < (files.map (bytes highlight colors)).flatten.length) :
    Prints highlight colors (files ++ more) room count before after where
  takes := by
    rw [List.map_append]
    exact h.takes.append fun _ _ => Nat.lt_of_lt_of_le beyond (Nat.le_add_right _ _)
  printed := by
    rw [h.printed, List.map_append, List.flatten_append,
      List.take_append_of_le_length (Nat.le_of_lt beyond)]
  left := by
    rw [h.left, List.map_append, List.flatten_append, List.length_append]
    congr 1
    omega
  tree := h.tree

theorem flatten_concat (highlight colors : Bool) (files : List GeneratedFile)
    (file : GeneratedFile) :
    ((files ++ [file]).map (bytes highlight colors)).flatten =
      (files.map (bytes highlight colors)).flatten ++ bytes highlight colors file := by
  simp

/-- Whether one more file is taken whole or not, the printer keeps what it has room for. -/
theorem concat (h : Prints highlight colors files room count before after) {file : GeneratedFile}
    {count' : Nat} (takes : Takes ((files ++ [file]).map (bytes highlight colors)) room count') :
    Prints highlight colors (files ++ [file]) room count' before
      (printing after (room - (files.map (bytes highlight colors)).flatten.length)
        (bytes highlight colors file)) where
  takes
  printed := by
    rw [flatten_concat, List.take_append, ← List.append_assoc, ← h.printed]
    rfl
  left := by
    rw [flatten_concat, List.length_append, ← Nat.sub_sub]
    rfl
  tree := h.tree

/-- One more file is taken whole if it ends within the room. -/
theorem emit (h : Prints highlight colors files room count before after) (file : GeneratedFile) :
    (∃ w, (sink highlight colors).emit file after = (.ok .printed, w) ∧ count = files.length ∧
      Prints highlight colors (files ++ [file]) room (count + 1) before w) ∨
    (∃ w, (sink highlight colors).emit file after =
        (.error (.print file.path Workspace.printerFull), w) ∧
      room < ((files ++ [file]).map (bytes highlight colors)).flatten.length ∧
      Prints highlight colors (files ++ [file]) room count before w) := by
  have pos := bytes_pos highlight colors file
  have length := congrArg List.length (flatten_concat highlight colors files file)
  rw [List.length_append] at length
  rw [emit_apply h.left]
  by_cases fits : ((files ++ [file]).map (bytes highlight colors)).flatten.length ≤ room
  · rw [if_pos (by omega)]
    have all : count = files.length := by
      have := h.takes.eq_length_iff.mpr (by omega)
      rwa [List.length_map] at this
    have takes := Takes.all fits
    rw [List.length_map, List.length_append, ← all] at takes
    exact .inl ⟨_, rfl, all, h.concat takes⟩
  · rw [if_neg (by omega)]
    refine .inr ⟨_, rfl, by omega, h.concat ?_⟩
    rw [List.map_append]
    refine h.takes.append fun next hnext => ?_
    obtain rfl := Option.some.inj hnext
    omega

end Prints

end WideColumn.Console
