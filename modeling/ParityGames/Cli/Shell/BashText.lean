import ParityGames.Cli.Shell.Names

/-!
# The fixed parts of the bash completion script

The bash script opens with the functions that walk the typed words and
close with the entry function that bash calls; between them stand the
functions generated for each command (see `bashScript`).  When the words
reach a flag value or an argument that the program completes itself, the
script runs the program's `__complete` command.
-/

namespace ParityGames

namespace Cli

namespace Shell

/-- The functions before the per-command functions of the bash script. -/
def bashPreamble (name : String) : String := String.join [
  "# bash completion for " ++ (headerName name) ++ " -*- shell-script -*-\n",
  "\n",
  "__" ++ name ++ "_debug()\n",
  "\x7b\n",
  "    if [[ -n $\x7bBASH_COMP_DEBUG_FILE:-\x7d ]]; then\n",
  "        echo \"$*\" >> \"$\x7bBASH_COMP_DEBUG_FILE\x7d\"\n",
  "    fi\n",
  "\x7d\n",
  "\n",
  "# Homebrew on Macs have version 1.3 of bash-completion which doesn't include\n",
  "# _init_completion. This is a very minimal version of that function.\n",
  "__" ++ name ++ "_init_completion()\n",
  "\x7b\n",
  "    COMPREPLY=()\n",
  "    _get_comp_words_by_ref \"$@\" cur prev words cword\n",
  "\x7d\n",
  "\n",
  "__" ++ name ++ "_index_of_word()\n",
  "\x7b\n",
  "    local w word=$1\n",
  "    shift\n",
  "    index=0\n",
  "    for w in \"$@\"; do\n",
  "        [[ $w = \"$word\" ]] && return\n",
  "        index=$((index+1))\n",
  "    done\n",
  "    index=-1\n",
  "\x7d\n",
  "\n",
  "__" ++ name ++ "_contains_word()\n",
  "\x7b\n",
  "    local w word=$1; shift\n",
  "    for w in \"$@\"; do\n",
  "        [[ $w = \"$word\" ]] && return\n",
  "    done\n",
  "    return 1\n",
  "\x7d\n",
  "\n",
  "__" ++ name ++ "_handle_go_custom_completion()\n",
  "\x7b\n",
  "    __" ++ name ++ "_debug \"$\x7bFUNCNAME[0]\x7d: cur is $\x7bcur\x7d, words[*] is $\x7bwords[*]\x7d, #words[@] is $\x7b#words[@]\x7d\"\n",
  "\n",
  "    local shellCompDirectiveError=1\n",
  "    local shellCompDirectiveNoSpace=2\n",
  "    local shellCompDirectiveNoFileComp=4\n",
  "    local shellCompDirectiveFilterFileExt=8\n",
  "    local shellCompDirectiveFilterDirs=16\n",
  "\n",
  "    local out requestComp lastParam lastChar comp directive args\n",
  "\n",
  "    # Prepare the command to request completions for the program.\n",
  "    # Calling $\x7bwords[0]\x7d instead of directly " ++ name ++ " allows handling aliases\n",
  "    args=(\"$\x7bwords[@]:1\x7d\")\n",
  "    # Disable ActiveHelp which is not supported for bash completion v1\n",
  "    requestComp=\"" ++ (envPrefix name) ++ "_ACTIVE_HELP=0 $\x7bwords[0]\x7d __completeNoDesc $\x7bargs[*]\x7d\"\n",
  "\n",
  "    lastParam=$\x7bwords[$(($\x7b#words[@]\x7d-1))]\x7d\n",
  "    lastChar=$\x7blastParam:$(($\x7b#lastParam\x7d-1)):1\x7d\n",
  "    __" ++ name ++ "_debug \"$\x7bFUNCNAME[0]\x7d: lastParam $\x7blastParam\x7d, lastChar $\x7blastChar\x7d\"\n",
  "\n",
  "    if [ -z \"$\x7bcur\x7d\" ] && [ \"$\x7blastChar\x7d\" != \"=\" ]; then\n",
  "        # If the last parameter is complete (there is a space following it)\n",
  "        # We add an extra empty parameter so we can indicate this to the go method.\n",
  "        __" ++ name ++ "_debug \"$\x7bFUNCNAME[0]\x7d: Adding extra empty parameter\"\n",
  "        requestComp=\"$\x7brequestComp\x7d \\\"\\\"\"\n",
  "    fi\n",
  "\n",
  "    __" ++ name ++ "_debug \"$\x7bFUNCNAME[0]\x7d: calling $\x7brequestComp\x7d\"\n",
  "    # Use eval to handle any environment variables and such\n",
  "    out=$(eval \"$\x7brequestComp\x7d\" 2>/dev/null)\n",
  "\n",
  "    # Extract the directive integer at the very end of the output following a colon (:)\n",
  "    directive=$\x7bout##*:\x7d\n",
  "    # Remove the directive\n",
  "    out=$\x7bout%:*\x7d\n",
  "    if [ \"$\x7bdirective\x7d\" = \"$\x7bout\x7d\" ]; then\n",
  "        # There is not directive specified\n",
  "        directive=0\n",
  "    fi\n",
  "    __" ++ name ++ "_debug \"$\x7bFUNCNAME[0]\x7d: the completion directive is: $\x7bdirective\x7d\"\n",
  "    __" ++ name ++ "_debug \"$\x7bFUNCNAME[0]\x7d: the completions are: $\x7bout\x7d\"\n",
  "\n",
  "    if [ $((directive & shellCompDirectiveError)) -ne 0 ]; then\n",
  "        # Error code.  No completion.\n",
  "        __" ++ name ++ "_debug \"$\x7bFUNCNAME[0]\x7d: received error from custom completion go code\"\n",
  "        return\n",
  "    else\n",
  "        if [ $((directive & shellCompDirectiveNoSpace)) -ne 0 ]; then\n",
  "            if [[ $(type -t compopt) = \"builtin\" ]]; then\n",
  "                __" ++ name ++ "_debug \"$\x7bFUNCNAME[0]\x7d: activating no space\"\n",
  "                compopt -o nospace\n",
  "            fi\n",
  "        fi\n",
  "        if [ $((directive & shellCompDirectiveNoFileComp)) -ne 0 ]; then\n",
  "            if [[ $(type -t compopt) = \"builtin\" ]]; then\n",
  "                __" ++ name ++ "_debug \"$\x7bFUNCNAME[0]\x7d: activating no file completion\"\n",
  "                compopt +o default\n",
  "            fi\n",
  "        fi\n",
  "    fi\n",
  "\n",
  "    if [ $((directive & shellCompDirectiveFilterFileExt)) -ne 0 ]; then\n",
  "        # File extension filtering\n",
  "        local fullFilter filter filteringCmd\n",
  "        # Do not use quotes around the $out variable or else newline\n",
  "        # characters will be kept.\n",
  "        for filter in $\x7bout\x7d; do\n",
  "            fullFilter+=\"$filter|\"\n",
  "        done\n",
  "\n",
  "        filteringCmd=\"_filedir $fullFilter\"\n",
  "        __" ++ name ++ "_debug \"File filtering command: $filteringCmd\"\n",
  "        $filteringCmd\n",
  "    elif [ $((directive & shellCompDirectiveFilterDirs)) -ne 0 ]; then\n",
  "        # File completion for directories only\n",
  "        local subdir\n",
  "        # Use printf to strip any trailing newline\n",
  "        subdir=$(printf \"%s\" \"$\x7bout\x7d\")\n",
  "        if [ -n \"$subdir\" ]; then\n",
  "            __" ++ name ++ "_debug \"Listing directories in $subdir\"\n",
  "            __" ++ name ++ "_handle_subdirs_in_dir_flag \"$subdir\"\n",
  "        else\n",
  "            __" ++ name ++ "_debug \"Listing directories in .\"\n",
  "            _filedir -d\n",
  "        fi\n",
  "    else\n",
  "        while IFS='' read -r comp; do\n",
  "            COMPREPLY+=(\"$comp\")\n",
  "        done < <(compgen -W \"$\x7bout\x7d\" -- \"$cur\")\n",
  "    fi\n",
  "\x7d\n",
  "\n",
  "__" ++ name ++ "_handle_reply()\n",
  "\x7b\n",
  "    __" ++ name ++ "_debug \"$\x7bFUNCNAME[0]\x7d\"\n",
  "    local comp\n",
  "    case $cur in\n",
  "        -*)\n",
  "            if [[ $(type -t compopt) = \"builtin\" ]]; then\n",
  "                compopt -o nospace\n",
  "            fi\n",
  "            local allflags\n",
  "            if [ $\x7b#must_have_one_flag[@]\x7d -ne 0 ]; then\n",
  "                allflags=(\"$\x7bmust_have_one_flag[@]\x7d\")\n",
  "            else\n",
  "                allflags=(\"$\x7bflags[*]\x7d $\x7btwo_word_flags[*]\x7d\")\n",
  "            fi\n",
  "            while IFS='' read -r comp; do\n",
  "                COMPREPLY+=(\"$comp\")\n",
  "            done < <(compgen -W \"$\x7ballflags[*]\x7d\" -- \"$cur\")\n",
  "            if [[ $(type -t compopt) = \"builtin\" ]]; then\n",
  "                [[ \"$\x7bCOMPREPLY[0]\x7d\" == *= ]] || compopt +o nospace\n",
  "            fi\n",
  "\n",
  "            # complete after --flag=abc\n",
  "            if [[ $cur == *=* ]]; then\n",
  "                if [[ $(type -t compopt) = \"builtin\" ]]; then\n",
  "                    compopt +o nospace\n",
  "                fi\n",
  "\n",
  "                local index flag\n",
  "                flag=\"$\x7bcur%=*\x7d\"\n",
  "                __" ++ name ++ "_index_of_word \"$\x7bflag\x7d\" \"$\x7bflags_with_completion[@]\x7d\"\n",
  "                COMPREPLY=()\n",
  "                if [[ $\x7bindex\x7d -ge 0 ]]; then\n",
  "                    PREFIX=\"\"\n",
  "                    cur=\"$\x7bcur#*=\x7d\"\n",
  "                    $\x7bflags_completion[$\x7bindex\x7d]\x7d\n",
  "                    if [ -n \"$\x7bZSH_VERSION:-\x7d\" ]; then\n",
  "                        # zsh completion needs --flag= prefix\n",
  "                        eval \"COMPREPLY=( \\\"\\$\x7bCOMPREPLY[@]/#/$\x7bflag\x7d=\x7d\\\" )\"\n",
  "                    fi\n",
  "                fi\n",
  "            fi\n",
  "\n",
  "            if [[ -z \"$\x7bflag_parsing_disabled\x7d\" ]]; then\n",
  "                # If flag parsing is enabled, we have completed the flags and can return.\n",
  "                # If flag parsing is disabled, we may not know all (or any) of the flags, so we fallthrough\n",
  "                # to possibly call handle_go_custom_completion.\n",
  "                return 0;\n",
  "            fi\n",
  "            ;;\n",
  "    esac\n",
  "\n",
  "    # check if we are handling a flag with special work handling\n",
  "    local index\n",
  "    __" ++ name ++ "_index_of_word \"$\x7bprev\x7d\" \"$\x7bflags_with_completion[@]\x7d\"\n",
  "    if [[ $\x7bindex\x7d -ge 0 ]]; then\n",
  "        $\x7bflags_completion[$\x7bindex\x7d]\x7d\n",
  "        return\n",
  "    fi\n",
  "\n",
  "    # we are parsing a flag and don't have a special handler, no completion\n",
  "    if [[ $\x7bcur\x7d != \"$\x7bwords[cword]\x7d\" ]]; then\n",
  "        return\n",
  "    fi\n",
  "\n",
  "    local completions\n",
  "    completions=(\"$\x7bcommands[@]\x7d\")\n",
  "    if [[ $\x7b#must_have_one_noun[@]\x7d -ne 0 ]]; then\n",
  "        completions+=(\"$\x7bmust_have_one_noun[@]\x7d\")\n",
  "    elif [[ -n \"$\x7bhas_completion_function\x7d\" ]]; then\n",
  "        # if a go completion function is provided, defer to that function\n",
  "        __" ++ name ++ "_handle_go_custom_completion\n",
  "    fi\n",
  "    if [[ $\x7b#must_have_one_flag[@]\x7d -ne 0 ]]; then\n",
  "        completions+=(\"$\x7bmust_have_one_flag[@]\x7d\")\n",
  "    fi\n",
  "    while IFS='' read -r comp; do\n",
  "        COMPREPLY+=(\"$comp\")\n",
  "    done < <(compgen -W \"$\x7bcompletions[*]\x7d\" -- \"$cur\")\n",
  "\n",
  "    if [[ $\x7b#COMPREPLY[@]\x7d -eq 0 && $\x7b#noun_aliases[@]\x7d -gt 0 && $\x7b#must_have_one_noun[@]\x7d -ne 0 ]]; then\n",
  "        while IFS='' read -r comp; do\n",
  "            COMPREPLY+=(\"$comp\")\n",
  "        done < <(compgen -W \"$\x7bnoun_aliases[*]\x7d\" -- \"$cur\")\n",
  "    fi\n",
  "\n",
  "    if [[ $\x7b#COMPREPLY[@]\x7d -eq 0 ]]; then\n",
  "        if declare -F __" ++ name ++ "_custom_func >/dev/null; then\n",
  "            # try command name qualified custom func\n",
  "            __" ++ name ++ "_custom_func\n",
  "        else\n",
  "            # otherwise fall back to unqualified for compatibility\n",
  "            declare -F __custom_func >/dev/null && __custom_func\n",
  "        fi\n",
  "    fi\n",
  "\n",
  "    # available in bash-completion >= 2, not always present on macOS\n",
  "    if declare -F __ltrim_colon_completions >/dev/null; then\n",
  "        __ltrim_colon_completions \"$cur\"\n",
  "    fi\n",
  "\n",
  "    # If there is only 1 completion and it is a flag with an = it will be completed\n",
  "    # but we don't want a space after the =\n",
  "    if [[ \"$\x7b#COMPREPLY[@]\x7d\" -eq \"1\" ]] && [[ $(type -t compopt) = \"builtin\" ]] && [[ \"$\x7bCOMPREPLY[0]\x7d\" == --*= ]]; then\n",
  "       compopt -o nospace\n",
  "    fi\n",
  "\x7d\n",
  "\n",
  "# The arguments should be in the form \"ext1|ext2|extn\"\n",
  "__" ++ name ++ "_handle_filename_extension_flag()\n",
  "\x7b\n",
  "    local ext=\"$1\"\n",
  "    _filedir \"@($\x7bext\x7d)\"\n",
  "\x7d\n",
  "\n",
  "__" ++ name ++ "_handle_subdirs_in_dir_flag()\n",
  "\x7b\n",
  "    local dir=\"$1\"\n",
  "    pushd \"$\x7bdir\x7d\" >/dev/null 2>&1 && _filedir -d && popd >/dev/null 2>&1 || return\n",
  "\x7d\n",
  "\n",
  "__" ++ name ++ "_handle_flag()\n",
  "\x7b\n",
  "    __" ++ name ++ "_debug \"$\x7bFUNCNAME[0]\x7d: c is $c words[c] is $\x7bwords[c]\x7d\"\n",
  "\n",
  "    # if a command required a flag, and we found it, unset must_have_one_flag()\n",
  "    local flagname=$\x7bwords[c]\x7d\n",
  "    local flagvalue=\"\"\n",
  "    # if the word contained an =\n",
  "    if [[ $\x7bwords[c]\x7d == *\"=\"* ]]; then\n",
  "        flagvalue=$\x7bflagname#*=\x7d # take in as flagvalue after the =\n",
  "        flagname=$\x7bflagname%=*\x7d # strip everything after the =\n",
  "        flagname=\"$\x7bflagname\x7d=\" # but put the = back\n",
  "    fi\n",
  "    __" ++ name ++ "_debug \"$\x7bFUNCNAME[0]\x7d: looking for $\x7bflagname\x7d\"\n",
  "    if __" ++ name ++ "_contains_word \"$\x7bflagname\x7d\" \"$\x7bmust_have_one_flag[@]\x7d\"; then\n",
  "        must_have_one_flag=()\n",
  "    fi\n",
  "\n",
  "    # if you set a flag which only applies to this command, don't show subcommands\n",
  "    if __" ++ name ++ "_contains_word \"$\x7bflagname\x7d\" \"$\x7blocal_nonpersistent_flags[@]\x7d\"; then\n",
  "      commands=()\n",
  "    fi\n",
  "\n",
  "    # keep flag value with flagname as flaghash\n",
  "    # flaghash variable is an associative array which is only supported in bash > 3.\n",
  "    if [[ -z \"$\x7bBASH_VERSION:-\x7d\" || \"$\x7bBASH_VERSINFO[0]:-\x7d\" -gt 3 ]]; then\n",
  "        if [ -n \"$\x7bflagvalue\x7d\" ] ; then\n",
  "            flaghash[$\x7bflagname\x7d]=$\x7bflagvalue\x7d\n",
  "        elif [ -n \"$\x7bwords[ $((c+1)) ]\x7d\" ] ; then\n",
  "            flaghash[$\x7bflagname\x7d]=$\x7bwords[ $((c+1)) ]\x7d\n",
  "        else\n",
  "            flaghash[$\x7bflagname\x7d]=\"true\" # pad \"true\" for bool flag\n",
  "        fi\n",
  "    fi\n",
  "\n",
  "    # skip the argument to a two word flag\n",
  "    if [[ $\x7bwords[c]\x7d != *\"=\"* ]] && __" ++ name ++ "_contains_word \"$\x7bwords[c]\x7d\" \"$\x7btwo_word_flags[@]\x7d\"; then\n",
  "        __" ++ name ++ "_debug \"$\x7bFUNCNAME[0]\x7d: found a flag $\x7bwords[c]\x7d, skip the next argument\"\n",
  "        c=$((c+1))\n",
  "        # if we are looking for a flags value, don't show commands\n",
  "        if [[ $c -eq $cword ]]; then\n",
  "            commands=()\n",
  "        fi\n",
  "    fi\n",
  "\n",
  "    c=$((c+1))\n",
  "\n",
  "\x7d\n",
  "\n",
  "__" ++ name ++ "_handle_noun()\n",
  "\x7b\n",
  "    __" ++ name ++ "_debug \"$\x7bFUNCNAME[0]\x7d: c is $c words[c] is $\x7bwords[c]\x7d\"\n",
  "\n",
  "    if __" ++ name ++ "_contains_word \"$\x7bwords[c]\x7d\" \"$\x7bmust_have_one_noun[@]\x7d\"; then\n",
  "        must_have_one_noun=()\n",
  "    elif __" ++ name ++ "_contains_word \"$\x7bwords[c]\x7d\" \"$\x7bnoun_aliases[@]\x7d\"; then\n",
  "        must_have_one_noun=()\n",
  "    fi\n",
  "\n",
  "    nouns+=(\"$\x7bwords[c]\x7d\")\n",
  "    c=$((c+1))\n",
  "\x7d\n",
  "\n",
  "__" ++ name ++ "_handle_command()\n",
  "\x7b\n",
  "    __" ++ name ++ "_debug \"$\x7bFUNCNAME[0]\x7d: c is $c words[c] is $\x7bwords[c]\x7d\"\n",
  "\n",
  "    local next_command\n",
  "    if [[ -n $\x7blast_command\x7d ]]; then\n",
  "        next_command=\"_$\x7blast_command\x7d_$\x7bwords[c]//:/__\x7d\"\n",
  "    else\n",
  "        if [[ $c -eq 0 ]]; then\n",
  "            next_command=\"_" ++ name ++ "_root_command\"\n",
  "        else\n",
  "            next_command=\"_$\x7bwords[c]//:/__\x7d\"\n",
  "        fi\n",
  "    fi\n",
  "    c=$((c+1))\n",
  "    __" ++ name ++ "_debug \"$\x7bFUNCNAME[0]\x7d: looking for $\x7bnext_command\x7d\"\n",
  "    declare -F \"$next_command\" >/dev/null && $next_command\n",
  "\x7d\n",
  "\n",
  "__" ++ name ++ "_handle_word()\n",
  "\x7b\n",
  "    if [[ $c -ge $cword ]]; then\n",
  "        __" ++ name ++ "_handle_reply\n",
  "        return\n",
  "    fi\n",
  "    __" ++ name ++ "_debug \"$\x7bFUNCNAME[0]\x7d: c is $c words[c] is $\x7bwords[c]\x7d\"\n",
  "    if [[ \"$\x7bwords[c]\x7d\" == -* ]]; then\n",
  "        __" ++ name ++ "_handle_flag\n",
  "    elif __" ++ name ++ "_contains_word \"$\x7bwords[c]\x7d\" \"$\x7bcommands[@]\x7d\"; then\n",
  "        __" ++ name ++ "_handle_command\n",
  "    elif [[ $c -eq 0 ]]; then\n",
  "        __" ++ name ++ "_handle_command\n",
  "    elif __" ++ name ++ "_contains_word \"$\x7bwords[c]\x7d\" \"$\x7bcommand_aliases[@]\x7d\"; then\n",
  "        # aliashash variable is an associative array which is only supported in bash > 3.\n",
  "        if [[ -z \"$\x7bBASH_VERSION:-\x7d\" || \"$\x7bBASH_VERSINFO[0]:-\x7d\" -gt 3 ]]; then\n",
  "            words[c]=$\x7baliashash[$\x7bwords[c]\x7d]\x7d\n",
  "            __" ++ name ++ "_handle_command\n",
  "        else\n",
  "            __" ++ name ++ "_handle_noun\n",
  "        fi\n",
  "    else\n",
  "        __" ++ name ++ "_handle_noun\n",
  "    fi\n",
  "    __" ++ name ++ "_handle_word\n",
  "\x7d\n",
  "\n"]

/-- The entry function and registration that end the bash script. -/
def bashPostscript (name : String) : String := String.join [
  "__start_" ++ name ++ "()\n",
  "\x7b\n",
  "    local cur prev words cword split\n",
  "    declare -A flaghash 2>/dev/null || :\n",
  "    declare -A aliashash 2>/dev/null || :\n",
  "    if declare -F _init_completion >/dev/null 2>&1; then\n",
  "        _init_completion -s || return\n",
  "    else\n",
  "        __" ++ name ++ "_init_completion -n \"=\" || return\n",
  "    fi\n",
  "\n",
  "    local c=0\n",
  "    local flag_parsing_disabled=\n",
  "    local flags=()\n",
  "    local two_word_flags=()\n",
  "    local local_nonpersistent_flags=()\n",
  "    local flags_with_completion=()\n",
  "    local flags_completion=()\n",
  "    local commands=(\"" ++ name ++ "\")\n",
  "    local command_aliases=()\n",
  "    local must_have_one_flag=()\n",
  "    local must_have_one_noun=()\n",
  "    local has_completion_function=\"\"\n",
  "    local last_command=\"\"\n",
  "    local nouns=()\n",
  "    local noun_aliases=()\n",
  "\n",
  "    __" ++ name ++ "_handle_word\n",
  "\x7d\n",
  "\n",
  "if [[ $(type -t compopt) = \"builtin\" ]]; then\n",
  "    complete -o default -F __start_" ++ name ++ " " ++ name ++ "\n",
  "else\n",
  "    complete -o default -o nospace -F __start_" ++ name ++ " " ++ name ++ "\n",
  "fi\n",
  "\n",
  "# ex: ts=4 sw=4 et filetype=sh\n"]

end Shell

end Cli

end ParityGames
