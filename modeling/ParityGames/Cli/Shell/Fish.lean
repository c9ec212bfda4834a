import ParityGames.Cli.Shell.Names

/-!
# The fish completion script

The fish script asks the program for candidates with `__complete` once per
completion and filters them by the typed prefix when the directive wants it.
-/

namespace ParityGames

namespace Cli

namespace Shell

/-- The fish completion script of a program. -/
def fishScript (name : String) : String := String.join [
  "# fish completion for " ++ (headerName name) ++ " -*- shell-script -*-\n",
  "\n",
  "function __" ++ name ++ "_debug\n",
  "    set -l file \"$BASH_COMP_DEBUG_FILE\"\n",
  "    if test -n \"$file\"\n",
  "        echo \"$argv\" >> $file\n",
  "    end\n",
  "end\n",
  "\n",
  "function __" ++ name ++ "_perform_completion\n",
  "    __" ++ name ++ "_debug \"Starting __" ++ name ++ "_perform_completion\"\n",
  "\n",
  "    # Extract all args except the last one\n",
  "    set -l args (commandline -opc)\n",
  "    # Extract the last arg and escape it in case it is a space\n",
  "    set -l lastArg (string escape -- (commandline -ct))\n",
  "\n",
  "    __" ++ name ++ "_debug \"args: $args\"\n",
  "    __" ++ name ++ "_debug \"last arg: $lastArg\"\n",
  "\n",
  "    # Disable ActiveHelp which is not supported for fish shell\n",
  "    set -l requestComp \"" ++ (envPrefix name) ++ "_ACTIVE_HELP=0 $args[1] __complete $args[2..-1] $lastArg\"\n",
  "\n",
  "    __" ++ name ++ "_debug \"Calling $requestComp\"\n",
  "    set -l results (eval $requestComp 2> /dev/null)\n",
  "\n",
  "    # Some programs may output extra empty lines after the directive.\n",
  "    # Let's ignore them or else it will break completion.\n",
  "    # Ref: https://github.com/spf13/cobra/issues/1279\n",
  "    for line in $results[-1..1]\n",
  "        if test (string trim -- $line) = \"\"\n",
  "            # Found an empty line, remove it\n",
  "            set results $results[1..-2]\n",
  "        else\n",
  "            # Found non-empty line, we have our proper output\n",
  "            break\n",
  "        end\n",
  "    end\n",
  "\n",
  "    set -l comps $results[1..-2]\n",
  "    set -l directiveLine $results[-1]\n",
  "\n",
  "    # For Fish, when completing a flag with an = (e.g., <program> -n=<TAB>)\n",
  "    # completions must be prefixed with the flag\n",
  "    set -l flagPrefix (string match -r -- '-.*=' \"$lastArg\")\n",
  "\n",
  "    __" ++ name ++ "_debug \"Comps: $comps\"\n",
  "    __" ++ name ++ "_debug \"DirectiveLine: $directiveLine\"\n",
  "    __" ++ name ++ "_debug \"flagPrefix: $flagPrefix\"\n",
  "\n",
  "    for comp in $comps\n",
  "        printf \"%s%s\\n\" \"$flagPrefix\" \"$comp\"\n",
  "    end\n",
  "\n",
  "    printf \"%s\\n\" \"$directiveLine\"\n",
  "end\n",
  "\n",
  "# this function limits calls to __" ++ name ++ "_perform_completion, by caching the result behind $__" ++ name ++ "_perform_completion_once_result\n",
  "function __" ++ name ++ "_perform_completion_once\n",
  "    __" ++ name ++ "_debug \"Starting __" ++ name ++ "_perform_completion_once\"\n",
  "\n",
  "    if test -n \"$__" ++ name ++ "_perform_completion_once_result\"\n",
  "        __" ++ name ++ "_debug \"Seems like a valid result already exists, skipping __" ++ name ++ "_perform_completion\"\n",
  "        return 0\n",
  "    end\n",
  "\n",
  "    set --global __" ++ name ++ "_perform_completion_once_result (__" ++ name ++ "_perform_completion)\n",
  "    if test -z \"$__" ++ name ++ "_perform_completion_once_result\"\n",
  "        __" ++ name ++ "_debug \"No completions, probably due to a failure\"\n",
  "        return 1\n",
  "    end\n",
  "\n",
  "    __" ++ name ++ "_debug \"Performed completions and set __" ++ name ++ "_perform_completion_once_result\"\n",
  "    return 0\n",
  "end\n",
  "\n",
  "# this function is used to clear the $__" ++ name ++ "_perform_completion_once_result variable after completions are run\n",
  "function __" ++ name ++ "_clear_perform_completion_once_result\n",
  "    __" ++ name ++ "_debug \"\"\n",
  "    __" ++ name ++ "_debug \"========= clearing previously set __" ++ name ++ "_perform_completion_once_result variable ==========\"\n",
  "    set --erase __" ++ name ++ "_perform_completion_once_result\n",
  "    __" ++ name ++ "_debug \"Successfully erased the variable __" ++ name ++ "_perform_completion_once_result\"\n",
  "end\n",
  "\n",
  "function __" ++ name ++ "_requires_order_preservation\n",
  "    __" ++ name ++ "_debug \"\"\n",
  "    __" ++ name ++ "_debug \"========= checking if order preservation is required ==========\"\n",
  "\n",
  "    __" ++ name ++ "_perform_completion_once\n",
  "    if test -z \"$__" ++ name ++ "_perform_completion_once_result\"\n",
  "        __" ++ name ++ "_debug \"Error determining if order preservation is required\"\n",
  "        return 1\n",
  "    end\n",
  "\n",
  "    set -l directive (string sub --start 2 $__" ++ name ++ "_perform_completion_once_result[-1])\n",
  "    __" ++ name ++ "_debug \"Directive is: $directive\"\n",
  "\n",
  "    set -l shellCompDirectiveKeepOrder 32\n",
  "    set -l keeporder (math (math --scale 0 $directive / $shellCompDirectiveKeepOrder) % 2)\n",
  "    __" ++ name ++ "_debug \"Keeporder is: $keeporder\"\n",
  "\n",
  "    if test $keeporder -ne 0\n",
  "        __" ++ name ++ "_debug \"This does require order preservation\"\n",
  "        return 0\n",
  "    end\n",
  "\n",
  "    __" ++ name ++ "_debug \"This doesn't require order preservation\"\n",
  "    return 1\n",
  "end\n",
  "\n",
  "\n",
  "# This function does two things:\n",
  "# - Obtain the completions and store them in the global __" ++ name ++ "_comp_results\n",
  "# - Return false if file completion should be performed\n",
  "function __" ++ name ++ "_prepare_completions\n",
  "    __" ++ name ++ "_debug \"\"\n",
  "    __" ++ name ++ "_debug \"========= starting completion logic ==========\"\n",
  "\n",
  "    # Start fresh\n",
  "    set --erase __" ++ name ++ "_comp_results\n",
  "\n",
  "    __" ++ name ++ "_perform_completion_once\n",
  "    __" ++ name ++ "_debug \"Completion results: $__" ++ name ++ "_perform_completion_once_result\"\n",
  "\n",
  "    if test -z \"$__" ++ name ++ "_perform_completion_once_result\"\n",
  "        __" ++ name ++ "_debug \"No completion, probably due to a failure\"\n",
  "        # Might as well do file completion, in case it helps\n",
  "        return 1\n",
  "    end\n",
  "\n",
  "    set -l directive (string sub --start 2 $__" ++ name ++ "_perform_completion_once_result[-1])\n",
  "    set --global __" ++ name ++ "_comp_results $__" ++ name ++ "_perform_completion_once_result[1..-2]\n",
  "\n",
  "    __" ++ name ++ "_debug \"Completions are: $__" ++ name ++ "_comp_results\"\n",
  "    __" ++ name ++ "_debug \"Directive is: $directive\"\n",
  "\n",
  "    set -l shellCompDirectiveError 1\n",
  "    set -l shellCompDirectiveNoSpace 2\n",
  "    set -l shellCompDirectiveNoFileComp 4\n",
  "    set -l shellCompDirectiveFilterFileExt 8\n",
  "    set -l shellCompDirectiveFilterDirs 16\n",
  "\n",
  "    if test -z \"$directive\"\n",
  "        set directive 0\n",
  "    end\n",
  "\n",
  "    set -l compErr (math (math --scale 0 $directive / $shellCompDirectiveError) % 2)\n",
  "    if test $compErr -eq 1\n",
  "        __" ++ name ++ "_debug \"Received error directive: aborting.\"\n",
  "        # Might as well do file completion, in case it helps\n",
  "        return 1\n",
  "    end\n",
  "\n",
  "    set -l filefilter (math (math --scale 0 $directive / $shellCompDirectiveFilterFileExt) % 2)\n",
  "    set -l dirfilter (math (math --scale 0 $directive / $shellCompDirectiveFilterDirs) % 2)\n",
  "    if test $filefilter -eq 1; or test $dirfilter -eq 1\n",
  "        __" ++ name ++ "_debug \"File extension filtering or directory filtering not supported\"\n",
  "        # Do full file completion instead\n",
  "        return 1\n",
  "    end\n",
  "\n",
  "    set -l nospace (math (math --scale 0 $directive / $shellCompDirectiveNoSpace) % 2)\n",
  "    set -l nofiles (math (math --scale 0 $directive / $shellCompDirectiveNoFileComp) % 2)\n",
  "\n",
  "    __" ++ name ++ "_debug \"nospace: $nospace, nofiles: $nofiles\"\n",
  "\n",
  "    # If we want to prevent a space, or if file completion is NOT disabled,\n",
  "    # we need to count the number of valid completions.\n",
  "    # To do so, we will filter on prefix as the completions we have received\n",
  "    # may not already be filtered so as to allow fish to match on different\n",
  "    # criteria than the prefix.\n",
  "    if test $nospace -ne 0; or test $nofiles -eq 0\n",
  "        set -l prefix (commandline -t | string escape --style=regex)\n",
  "        __" ++ name ++ "_debug \"prefix: $prefix\"\n",
  "\n",
  "        set -l completions (string match -r -- \"^$prefix.*\" $__" ++ name ++ "_comp_results)\n",
  "        set --global __" ++ name ++ "_comp_results $completions\n",
  "        __" ++ name ++ "_debug \"Filtered completions are: $__" ++ name ++ "_comp_results\"\n",
  "\n",
  "        # Important not to quote the variable for count to work\n",
  "        set -l numComps (count $__" ++ name ++ "_comp_results)\n",
  "        __" ++ name ++ "_debug \"numComps: $numComps\"\n",
  "\n",
  "        if test $numComps -eq 1; and test $nospace -ne 0\n",
  "            # We must first split on \\t to get rid of the descriptions to be\n",
  "            # able to check what the actual completion will be.\n",
  "            # We don't need descriptions anyway since there is only a single\n",
  "            # real completion which the shell will expand immediately.\n",
  "            set -l split (string split --max 1 \\t $__" ++ name ++ "_comp_results[1])\n",
  "\n",
  "            # Fish won't add a space if the completion ends with any\n",
  "            # of the following characters: @=/:.,\n",
  "            set -l lastChar (string sub -s -1 -- $split)\n",
  "            if not string match -r -q \"[@=/:.,]\" -- \"$lastChar\"\n",
  "                # In other cases, to support the \"nospace\" directive we trick the shell\n",
  "                # by outputting an extra, longer completion.\n",
  "                __" ++ name ++ "_debug \"Adding second completion to perform nospace directive\"\n",
  "                set --global __" ++ name ++ "_comp_results $split[1] $split[1].\n",
  "                __" ++ name ++ "_debug \"Completions are now: $__" ++ name ++ "_comp_results\"\n",
  "            end\n",
  "        end\n",
  "\n",
  "        if test $numComps -eq 0; and test $nofiles -eq 0\n",
  "            # To be consistent with bash and zsh, we only trigger file\n",
  "            # completion when there are no other completions\n",
  "            __" ++ name ++ "_debug \"Requesting file completion\"\n",
  "            return 1\n",
  "        end\n",
  "    end\n",
  "\n",
  "    return 0\n",
  "end\n",
  "\n",
  "# Since Fish completions are only loaded once the user triggers them, we trigger them ourselves\n",
  "# so we can properly delete any completions provided by another script.\n",
  "# Only do this if the program can be found, or else fish may print some errors; besides,\n",
  "# the existing completions will only be loaded if the program can be found.\n",
  "if type -q \"" ++ name ++ "\"\n",
  "    # The space after the program name is essential to trigger completion for the program\n",
  "    # and not completion of the program name itself.\n",
  "    # Also, we use '> /dev/null 2>&1' since '&>' is not supported in older versions of fish.\n",
  "    complete --do-complete \"" ++ name ++ " \" > /dev/null 2>&1\n",
  "end\n",
  "\n",
  "# Remove any pre-existing completions for the program since we will be handling all of them.\n",
  "complete -c " ++ name ++ " -e\n",
  "\n",
  "# this will get called after the two calls below and clear the $__" ++ name ++ "_perform_completion_once_result global\n",
  "complete -c " ++ name ++ " -n '__" ++ name ++ "_clear_perform_completion_once_result'\n",
  "# The call to __" ++ name ++ "_prepare_completions will setup __" ++ name ++ "_comp_results\n",
  "# which provides the program's completion choices.\n",
  "# If this doesn't require order preservation, we don't use the -k flag\n",
  "complete -c " ++ name ++ " -n 'not __" ++ name ++ "_requires_order_preservation && __" ++ name ++ "_prepare_completions' -f -a '$__" ++ name ++ "_comp_results'\n",
  "# otherwise we use the -k flag\n",
  "complete -k -c " ++ name ++ " -n '__" ++ name ++ "_requires_order_preservation && __" ++ name ++ "_prepare_completions' -f -a '$__" ++ name ++ "_comp_results'\n"]

end Shell

end Cli

end ParityGames
