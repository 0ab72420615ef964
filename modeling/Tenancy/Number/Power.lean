/-!
# Powers

Bounds such as `2 ^ 64` are powers of the core library, also where a module brings algebra in
with its own powers. So a bound is the same term in every module.
-/

attribute [default_instance 10001, instance (1100)] instPowNat
