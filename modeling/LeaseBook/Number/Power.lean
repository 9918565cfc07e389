/-!
Powers. Other libraries bring powers of their own for every monoid, and where both are in scope the
two compete. A power of a natural number or of an integer is here always the one of the core
library, so that a definition means the same whatever is imported beside it.
-/

attribute [instance (2000), default_instance 20000] instPowNat
