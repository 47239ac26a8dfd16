/-!
# Powers

A power of natural numbers or of integers is the built-in one, also where a module sees powers in other structures,
so that a bound such as `2 ^ 63` is the same term in every module.
-/

attribute [instance (high), default_instance (high + 1)] instPowNat
