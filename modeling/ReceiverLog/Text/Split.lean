namespace ReceiverLog.Text

/-- The stretches of a text between the places where a separator stands.
There is always at least one. -/
def split (separator : Char) : List Char → List (List Char)
  | [] => [[]]
  | character :: rest =>
      if character = separator then [] :: split separator rest
      else
        match split separator rest with
        | [] => [[character]]
        | first :: others => (character :: first) :: others

theorem split_ne_nil (separator : Char) (text : List Char) : split separator text ≠ [] := by
  cases text with
  | nil => simp [split]
  | cons character rest =>
      rw [split]
      split
      · simp
      · split <;> simp

end ReceiverLog.Text
