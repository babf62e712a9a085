namespace DtoGen

/-- Changes the first element that fits, or puts `fresh` at the end. -/
def upsert {α : Type} (fits : α → Bool) (change : α → α) (fresh : α) : List α → List α
  | [] => [fresh]
  | x :: xs => if fits x then change x :: xs else x :: upsert fits change fresh xs

end DtoGen
