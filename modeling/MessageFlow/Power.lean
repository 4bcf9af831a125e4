/-!
# Powers of numbers

A power of a number is the one of the core library, also where a larger library offers powers of its
own: bounds such as `2 ^ 64` are read in one way in the whole project.
-/

attribute [instance (high), default_instance (high + 1)] instPowNat
