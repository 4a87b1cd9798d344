import RedisControl.Definition

/-!
# The command line

Prints the definition of the resource, ready to be applied to a cluster.
-/

/-- Print the definition of the resource. -/
def main : IO Unit := do
  (← IO.getStdout).putStr RedisControl.Definition.text
